import Highlighter.Service.Surroundings

/-! A run of the service moment by moment: what happened, what it led to, and which documents are
open then. At some moments an answer is handed to the publisher; which one that should be is said by
the request and its tree alone.
-/

namespace Highlighter

/-- An event with its effects, and the open documents after it. -/
structure Moment where
  event : Event
  effects : List Effect
  store : Store

/-- From one service some moments lead to another one. -/
inductive Service.Timeline (publishes : Bool) : Service → List Moment → Service → Prop
  | now {service} : Timeline publishes service [] service
  | step {service event next effects moments last}
    (stepped : service.step publishes event = some (next, effects))
    (later : Timeline publishes next moments last)
    : Timeline publishes service (⟨event, effects, next.store⟩ :: moments) last

namespace Event

/-- The request of an arrival. -/
def arrival? : Event → Option Request
  | arrive request => some request
  | _ => none

/-- All requests that arrive, each at the index that is its ticket. -/
def requests (events : List Event) : List Request := events.filterMap arrival?

/-- The request with a ticket, if it has arrived. -/
def request? (events : List Event) (ticket : Nat) : Option Request :=
  (requests events)[ticket]?

end Event

/-- What a highlight hands over when its load has ended: an answer that changes some line, if its
version is new, its tree is there, its walk ends, and the tree can be compared and the changed lines
encoded.
-/
def HighlightRequest.publication? (request : HighlightRequest) (base : Option Snapshot)
    (loaded : Except LoadFault Tree)
    : Option Highlighted := do
  (request.checkVersion base).toOption
  let tree ← loaded.toOption
  let found ← tree.highlights.toOption
  let changed ← (Line.changes found.tokens (Snapshot.baseline base)).toOption
  let lines ← (EncodedLine.ofLines changed).toOption
  if lines.isEmpty then none
  else some ⟨request.uri, request.version, lines, found.diagnostics.length⟩

namespace Moment

/-- The open documents after some moments of a run that began without any. -/
def storeAfter (moments : List Moment) : Store :=
  match moments.getLast? with
  | some moment => moment.store
  | none => .empty

/-- What should be handed over at a moment, with the ticket of its call, given the moments before
it: the load of a highlight has ended, and its document is open as these have left it.
-/
def publication? (before : List Moment) (moment : Moment) : Option (Nat × Highlighted) :=
  match moment.event with
  | .loaded ticket tree =>
      match Event.request? (before.map Moment.event) ticket with
      | some (.highlight request) =>
          (request.publication? ((storeAfter before).get? request.uri) tree).map (ticket, ·)
      | _ => none
  | _ => none

/-- What is handed over at a moment, with the ticket of the call that the event is about. -/
def handovers (moment : Moment) : List (Nat × Highlighted) :=
  match moment.event.ticket? with
  | some ticket => (moment.effects.filterMap Effect.handed?).map fun handed => (ticket, handed.1)
  | none => []

/-- A close of a document succeeds at a moment. -/
def Closes (uri : String) (moment : Moment) : Prop :=
  ∃ ticket, .settled uri ticket (.ok (.closed uri)) ∈ moment.effects

end Moment

end Highlighter
