import Highlighter.Service.Surroundings

/-! Calls that are performed one after the other, each to its end, next to what the same calls do
when their steps mix. Every call has its own tree and its own publication, whenever these come.
-/

namespace Highlighter

/-- What the loads and the publications of calls return, by ticket. -/
structure Outcomes where
  load : Nat → Except LoadFault Tree
  publication : Nat → Except String Unit

namespace Outcomes

/-- An event brings a call what its own load or publication returns. -/
def Admits (outcomes : Outcomes) : Event → Prop
  | .loaded ticket tree => outcomes.load ticket = tree
  | .published ticket result => outcomes.publication ticket = result
  | _ => True

/-- The surroundings in which the call with a ticket is performed. -/
def surroundings (outcomes : Outcomes) (publishes : Bool) (ticket : Nat) : Surroundings :=
  ⟨fun _ => outcomes.load ticket,
    if publishes then some fun _ => outcomes.publication ticket else none⟩

/-- Calls publish if the service does, by cases. -/
@[simp] theorem publishes_surroundings (outcomes : Outcomes) (publishes : Bool) (ticket : Nat)
    : (outcomes.surroundings publishes ticket).publishes = publishes := by
  cases publishes <;> rfl

/-- Every path leads to the call's own tree, by definition. -/
@[simp] theorem load_surroundings (outcomes : Outcomes) (publishes : Bool) (ticket : Nat)
    (path : String)
    : (outcomes.surroundings publishes ticket).load path = outcomes.load ticket :=
  rfl

end Outcomes

/-- Performs calls one after the other: the open documents in the end, and all effects. -/
def Store.performAll (outcomes : Outcomes) (publishes : Bool)
    : Store → List (Nat × Request) → Store × List Effect
  | store, [] => (store, [])
  | store, (ticket, request) :: rest =>
      let (next, effects, answer) :=
        store.perform (outcomes.surroundings publishes ticket) request
      let (last, others) := performAll outcomes publishes next rest
      (last, effects ++ .settled request.uri ticket answer :: others)

namespace Event

/-- The calls on a document that arrive in a run of events, in their order; the first arrival of
the run gets the ticket `next`.
-/
def callsOn (uri : String) : Nat → List Event → List (Nat × Request)
  | _, [] => []
  | next, .arrive request :: rest =>
      if request.uri = uri then (next, request) :: callsOn uri (next + 1) rest
      else callsOn uri (next + 1) rest
  | next, _ :: rest => callsOn uri next rest

end Event

namespace Effect

/-- An effect of the work on a call, not of its return to the caller. -/
def isWork : Effect → Bool
  | .returned _ _ _ => false
  | _ => true

/-- The work on a document. -/
def workOn (uri : String) (effects : List Effect) : List Effect :=
  effects.filter fun effect => effect.uri = uri && effect.isWork

/-- What a document looks like after an effect. -/
def replay (uri : String) (content : Option Snapshot) : Effect → Option Snapshot
  | .stored other snapshot => if other = uri then some snapshot else content
  | .removed other => if other = uri then none else content
  | _ => content

/-- What a document looks like after effects, if it was not open before them. -/
def content (uri : String) (effects : List Effect) : Option Snapshot :=
  effects.foldl (replay uri) none

/-- The settlement of a call on a document. -/
def settled? (uri : String) : Effect → Option (Nat × Except Failure Answer)
  | .settled other ticket answer => if other = uri then some (ticket, answer) else none
  | _ => none

/-- The answer that the caller of a call on a document has. -/
def returned? (uri : String) : Effect → Option (Nat × Except Failure Answer)
  | .returned other ticket answer => if other = uri then some (ticket, answer) else none
  | _ => none

/-- The settlements of the calls on a document. -/
def settlements (uri : String) (effects : List Effect)
    : List (Nat × Except Failure Answer) :=
  effects.filterMap (settled? uri)

/-- The answers that the callers of a document have. -/
def returns (uri : String) (effects : List Effect) : List (Nat × Except Failure Answer) :=
  effects.filterMap (returned? uri)

end Effect

end Highlighter
