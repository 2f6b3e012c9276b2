import Highlighter.Service

/-! Driving the service where trees load and publications end by fixed rules: in a directory of
files, and with a publisher that may refuse some answers. Requests can arrive together and are then
worked off until nothing is left, or be performed one by one on the store alone.
-/

namespace Highlighter

/-- What the service depends on. -/
structure Surroundings where
  load : String → Except LoadFault Tree
  /-- What becomes of an answer that is handed over; none without a publisher. -/
  publisher : Option (Highlighted → Except String Unit)

namespace Surroundings

/-- Trees are loaded from files and nothing is published. -/
def ofFiles (files : Files) : Surroundings := ⟨Tree.load files, none⟩

/-- Answers are handed to a publisher. -/
def publishes (surroundings : Surroundings) : Bool := surroundings.publisher.isSome

/-- What becomes of an answer. -/
def publish (surroundings : Surroundings) (answer : Highlighted) : Except String Unit :=
  match surroundings.publisher with
  | some publisher => publisher answer
  | none => .ok ()

/-- The event that a call of a queue waits for, if it may come now. -/
def eventFor? (surroundings : Surroundings)
    (queue : Queue Request Progress (Except Failure Answer)) (call : Call)
    : Option Event :=
  match call.stage with
  | .waiting => if queue.free call then some (.start call.ticket) else none
  | .running (.loading request _) =>
      some (.loaded call.ticket (surroundings.load request.path))
  | .running (.publishing answer) =>
      some (.published call.ticket (surroundings.publish answer))
  | .ended _ => some (.leave call.ticket)

end Surroundings

namespace Service

/-- The steps that a call still has before it at most. -/
def stepsLeft (call : Call) : Nat :=
  match call.stage with
  | .waiting => 4
  | .running (.loading _ _) => 3
  | .running (.publishing _) => 2
  | .ended _ => 1

/-- The steps that all calls still have before them at most. -/
def work (service : Service) : Nat :=
  service.queue.jobs.foldr (fun call count => stepsLeft call + count) 0

/-- Works calls off, the oldest that can go on first, in at most so many steps. -/
def workOff (surroundings : Surroundings) : Nat → Service → Service × List Effect
  | 0, service => (service, [])
  | steps + 1, service =>
      let next? := do
        let event ← service.queue.jobs.findSome? (surroundings.eventFor? service.queue)
        service.step surroundings.publishes event
      match next? with
      | none => (service, [])
      | some (next, effects) =>
          let (last, others) := workOff surroundings steps next
          (last, effects ++ others)

/-- Requests arrive one right after the other. -/
def arriveAll (service : Service) (requests : List Request) : Service :=
  { service with queue :=
      requests.foldl (fun queue request => queue.arrive request.uri request) service.queue }

/-- A service without calls counts its tickets from 0 again. -/
def renumber (service : Service) : Service :=
  if service.queue.jobs.isEmpty then { service with queue := .empty } else service

/-- Requests arrive together and are worked off. -/
def handle (surroundings : Surroundings) (service : Service) (requests : List Request)
    : Service × List Effect :=
  let arrived := service.renumber.arriveAll requests
  workOff surroundings arrived.work arrived

end Service

namespace Effect

/-- The answer that the caller with that ticket has, if it is among the effects. -/
def answerTo? (ticket : Nat) : List Effect → Option (Except Failure Answer)
  | [] => none
  | .returned _ other answer :: rest =>
      if other = ticket then some answer else answerTo? ticket rest
  | _ :: rest => answerTo? ticket rest

/-- The place of a warning. -/
def warned? : Effect → Option FileLocation
  | .warned _ place => some place
  | _ => none

/-- An answer that was handed over, and whether its document was open then. -/
def handed? : Effect → Option (Highlighted × Bool)
  | .handed answer isOpen => some (answer, isOpen)
  | _ => none

end Effect

namespace Store

/-- Performs one request to its end. -/
def perform (surroundings : Surroundings) (store : Store)
    : Request → Store × List Effect × Except Failure Answer
  | .close uri =>
      match store.get? uri with
      | none => (store, [], .error (.notOpen uri))
      | some _ => (store.erase uri, [.removed uri], .ok (.closed uri))
  | .highlight request =>
      let base := store.get? request.uri
      match request.checkVersion base with
      | .error failure => (store, [], .error failure)
      | .ok () =>
          match surroundings.load request.path with
          | .error fault => (store, [], .error (.load fault))
          | .ok tree =>
              let commit := request.commit base tree
              let (kept, stored) := store.keep request.uri commit
              let effects := commit.diagnostics.map (.warned request.uri) ++ stored
              match commit.answer with
              | .error failure => (kept, effects, .error failure)
              | .ok answer =>
                  if surroundings.publishes && !answer.lines.isEmpty then
                    let isOpen := (kept.get? answer.uri).isSome
                    let effects := effects ++ [.handed answer isOpen]
                    (kept, effects, answer.afterPublication (surroundings.publish answer))
                  else (kept, effects, .ok (.highlighted answer))

end Store

end Highlighter
