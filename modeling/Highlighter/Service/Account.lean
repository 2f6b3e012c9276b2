import Highlighter.Service.Serial

/-! What a run tells of one document: the versions that it has had since it was last closed, and
the performance of each call on it. Both are read off the effects of the run, whatever other
documents have among them.
-/

namespace Highlighter

namespace Effect

/-- The versions of a document, after an effect. A close that succeeds starts them anew. -/
def noteVersion (uri : String) (versions : List Number) : Effect → List Number
  | .stored other snapshot =>
      if other = uri then versions ++ [snapshot.version] else versions
  | .settled other _ (.ok (.closed _)) => if other = uri then [] else versions
  | _ => versions

/-- The versions of a document that effects have stored since they last closed it, in order. -/
def versions (uri : String) (effects : List Effect) : List Number :=
  effects.foldl (noteVersion uri) []

/-- The failure that a call has settled on, with its ticket. -/
def failed? : Effect → Option (Nat × Failure)
  | .settled _ ticket (.error failure) => some (ticket, failure)
  | _ => none

end Effect

/-- What a call did: its effects, the answer that it settled on, and what its document looks like
then.
-/
structure Performance where
  effects : List Effect
  answer : Except Failure Answer
  content : Option Snapshot

/-- What has been seen of a document: the performances of the calls on it that are over, each with its
ticket, what has been done since, and what it looks like.
-/
structure Account where
  performed : List (Nat × Performance)
  done : List Effect
  content : Option Snapshot

namespace Account

/-- Nothing has been seen of a document that was not open. -/
def blank : Account := ⟨[], [], none⟩

/-- Notes an effect, if it is work on the document. A settlement ends a performance. -/
def note (uri : String) (account : Account) (effect : Effect) : Account :=
  if effect.uri = uri then
    match effect with
    | .settled _ ticket answer =>
        let performance := ⟨account.done, answer, account.content⟩
        ⟨account.performed ++ [(ticket, performance)], [], account.content⟩
    | .returned _ _ _ => account
    | effect => ⟨account.performed, account.done ++ [effect], effect.replay uri account.content⟩
  else account

end Account

/-- The performances of the calls on a document that are over, each with the ticket of its call. -/
def Effect.performances (uri : String) (effects : List Effect) : List (Nat × Performance) :=
  (effects.foldl (Account.note uri) .blank).performed

/-- The performances of calls that are performed one after the other. -/
def Store.performances (outcomes : Outcomes) (publishes : Bool)
    : Store → List (Nat × Request) → List (Nat × Performance)
  | _, [] => []
  | store, (ticket, request) :: rest =>
      let (next, effects, answer) :=
        store.perform (outcomes.surroundings publishes ticket) request
      (ticket, ⟨effects, answer, next.get? request.uri⟩)
        :: performances outcomes publishes next rest

/-- Two calls ask for the same, and their loads and publications return the same. -/
structure Outcomes.Alike (outcomes others : Outcomes) (call twin : Nat × Request) : Prop where
  request : call.2 = twin.2
  load : outcomes.load call.1 = others.load twin.1
  publication : outcomes.publication call.1 = others.publication twin.1

namespace Event

/-- The last of these calls on a document are all of them, or all that came behind a close of it. -/
def SinceClose (uri : String) (calls later : List (Nat × Request)) : Prop :=
  later = calls ∨ ∃ earlier ticket, calls = earlier ++ (ticket, .close uri) :: later

end Event

end Highlighter
