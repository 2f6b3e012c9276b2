import Highlighter.Document
import Highlighter.Queue

/-! Highlight and close requests on one store, queued by document. A highlight waits twice after its
turn has come: for its tree and for its publication. Requests of other documents may move on in
between, so the service is a machine of small steps that any order of events can drive.
-/

namespace Highlighter

/-- What is asked of a document. -/
inductive Request where
  | highlight (request : HighlightRequest)
  | close (uri : String)
deriving DecidableEq, Repr

/-- The document that a request is about. -/
def Request.uri : Request → String
  | .highlight request => request.uri
  | .close uri => uri

/-- The answer to a request. -/
inductive Answer where
  | highlighted (answer : Highlighted)
  | closed (uri : String)
deriving DecidableEq, Repr

/-- What becomes of an answer that was published, or could not be. -/
def Highlighted.afterPublication (answer : Highlighted)
    : Except String Unit → Except Failure Answer
  | .error message => .error (.publication message)
  | .ok () => .ok (.highlighted answer)

/-- What a highlight that has taken its turn waits for. -/
inductive Progress where
  /-- Its tree, to be compared with what the document looked like. -/
  | loading (request : HighlightRequest) (base : Option Snapshot)
  /-- Its publication. -/
  | publishing (answer : Highlighted)
deriving DecidableEq, Repr

/-- A request that has arrived, with the ticket that its caller holds. -/
abbrev Call := Job Request Progress (Except Failure Answer)

/-- What happens to the service from outside, and when its calls go on. -/
inductive Event where
  | arrive (request : Request)
  /-- A call takes its turn. -/
  | start (ticket : Nat)
  /-- The tree that a call waits for is there, or cannot be loaded. -/
  | loaded (ticket : Nat) (tree : Except LoadFault Tree)
  /-- The publication that a call waits for has ended. -/
  | published (ticket : Nat) (result : Except String Unit)
  /-- A call that is over returns to its caller. -/
  | leave (ticket : Nat)

/-- What can be observed of a step, with the document that it is about. -/
inductive Effect where
  /-- No token starts at a place where one was asked for. -/
  | warned (uri : String) (place : FileLocation)
  | stored (uri : String) (snapshot : Snapshot)
  | removed (uri : String)
  /-- An answer goes to the publisher; its document is open then or not. -/
  | handed (answer : Highlighted) (isOpen : Bool)
  /-- The work on a call is over. -/
  | settled (uri : String) (ticket : Nat) (answer : Except Failure Answer)
  /-- The caller has its answer. -/
  | returned (uri : String) (ticket : Nat) (answer : Except Failure Answer)
deriving Repr

/-- The document that an effect is about. -/
def Effect.uri : Effect → String
  | .warned uri _ | .stored uri _ | .removed uri | .settled uri _ _ | .returned uri _ _ => uri
  | .handed answer _ => answer.uri

/-- Stores the snapshot of a commit, if it has one. -/
def Store.keep (store : Store) (uri : String) (commit : Commit) : Store × List Effect :=
  match commit.snapshot with
  | none => (store, [])
  | some snapshot => (store.set uri snapshot, [.stored uri snapshot])

/-- What a step of a call leads to: the open documents, the stage of the call, and its effects. -/
structure Move where
  store : Store
  stage : Stage Progress (Except Failure Answer)
  effects : List Effect

namespace Move

/-- A request takes its turn: a close is over at once, and so is a stale highlight. -/
def ofTurn (store : Store) : Request → Move
  | .close uri =>
      match store.get? uri with
      | none => ⟨store, .ended (.error (.notOpen uri)), []⟩
      | some _ => ⟨store.erase uri, .ended (.ok (.closed uri)), [.removed uri]⟩
  | .highlight request =>
      let base := store.get? request.uri
      match request.checkVersion base with
      | .error failure => ⟨store, .ended (.error failure), []⟩
      | .ok () => ⟨store, .running (.loading request base), []⟩

/-- A highlight has its answer. With a publisher, one that changes lines is handed over before the
call is over.
-/
def ofAnswer (publishes : Bool) (store : Store) (answer : Highlighted) : Move :=
  if publishes && !answer.lines.isEmpty then
    let isOpen := (store.get? answer.uri).isSome
    ⟨store, .running (.publishing answer), [.handed answer isOpen]⟩
  else ⟨store, .ended (.ok (.highlighted answer)), []⟩

/-- The tree of a highlight is there: its snapshot is stored, and then its answer is delivered. -/
def ofTree (publishes : Bool) (store : Store) (request : HighlightRequest)
    (base : Option Snapshot) (tree : Tree)
    : Move :=
  let commit := request.commit base tree
  let (kept, stored) := store.keep request.uri commit
  let done := commit.diagnostics.map (.warned request.uri) ++ stored
  match commit.answer with
  | .error failure => ⟨kept, .ended (.error failure), done⟩
  | .ok answer =>
      let delivered := ofAnswer publishes kept answer
      { delivered with effects := done ++ delivered.effects }

/-- The load of a highlight has ended. -/
def ofLoad (publishes : Bool) (store : Store) (request : HighlightRequest)
    (base : Option Snapshot)
    : Except LoadFault Tree → Move
  | .error fault => ⟨store, .ended (.error (.load fault)), []⟩
  | .ok tree => ofTree publishes store request base tree

/-- The publication of an answer has ended. -/
def ofResult (store : Store) (answer : Highlighted) (result : Except String Unit) : Move :=
  ⟨store, .ended (answer.afterPublication result), []⟩

end Move

/-- The ticket of the call that an event is about; an arrival has none yet. -/
def Event.ticket? : Event → Option Nat
  | .arrive _ => none
  | .start ticket | .loaded ticket _ | .published ticket _ | .leave ticket => some ticket

/-- The open documents and the calls that have not left. -/
structure Service where
  store : Store
  queue : Queue Request Progress (Except Failure Answer)

namespace Service

/-- No document is open and nothing is asked. -/
def initial : Service := ⟨.empty, .empty⟩

/-- What an event leads to for the call that it is about; none if the call waits for something
else.
-/
def move? (publishes : Bool) (service : Service) (call : Call) : Event → Option Move
  | .start _ =>
      match call.stage with
      | .waiting => if service.queue.free call then some (.ofTurn service.store call.task) else none
      | _ => none
  | .loaded _ tree =>
      match call.stage with
      | .running (.loading request base) =>
          some (.ofLoad publishes service.store request base tree)
      | _ => none
  | .published _ result =>
      match call.stage with
      | .running (.publishing answer) => some (.ofResult service.store answer result)
      | _ => none
  | _ => none

/-- A call gets on to another stage, and settles if it is over then. -/
def advance (service : Service) (call : Call) (move : Move) : Service × List Effect :=
  let settled := match move.stage with
    | .ended answer => [.settled call.uri call.ticket answer]
    | _ => []
  (⟨move.store, service.queue.advance call.ticket move.stage⟩, move.effects ++ settled)

/-- A call that is over returns to its caller. -/
def leave? (service : Service) (call : Call) : Option (Service × List Effect) :=
  match call.stage with
  | .ended answer =>
      some ({ service with queue := service.queue.leave call },
        [.returned call.uri call.ticket answer])
  | _ => none

/-- One event; none if it cannot happen now. -/
def step (publishes : Bool) (service : Service) (event : Event)
    : Option (Service × List Effect) :=
  match event with
  | .arrive request =>
      some ({ service with queue := service.queue.arrive request.uri request }, [])
  | .leave ticket => (service.queue.job? ticket).bind service.leave?
  | .start ticket | .loaded ticket _ | .published ticket _ =>
      (service.queue.job? ticket).bind fun call =>
        (service.move? publishes call event).map (service.advance call)

/-- Events one after the other; none if one cannot happen when it is due. -/
def run (publishes : Bool) : Service → List Event → Option (Service × List Effect)
  | service, [] => some (service, [])
  | service, event :: rest => do
      let (next, effects) ← service.step publishes event
      let (last, others) ← run publishes next rest
      return (last, effects ++ others)

end Service

end Highlighter
