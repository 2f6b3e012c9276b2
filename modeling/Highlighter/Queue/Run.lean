import Highlighter.Queue

/-! Runs of a queue, turn by turn. Jobs arrive; one that may start does so at some time, works for
as long as it likes and settles with an outcome; its caller gets the outcome when it leaves. Any
turns make a run as long as each of them is possible when it is due.
-/

namespace Highlighter.Queue

/-- What happens to a queue. -/
inductive Turn (α σ β : Type) where
  | arrive (uri : String) (task : α)
  | start (ticket : Nat) (state : σ)
  /-- A job that runs gets on to another state of its work. -/
  | proceed (ticket : Nat) (state : σ)
  | settle (ticket : Nat) (outcome : β)
  /-- The caller of a job that is over gets its outcome. -/
  | leave (ticket : Nat)
deriving DecidableEq, Repr

/-- What is seen of a job, with its document. -/
inductive Mark (α β : Type) where
  | started (uri : String) (ticket : Nat) (task : α)
  | settled (uri : String) (ticket : Nat) (outcome : β)
  | returned (uri : String) (ticket : Nat) (outcome : β)
deriving DecidableEq, Repr

variable {α σ β : Type}

/-- A job that waits starts, if it may. -/
def start? (queue : Queue α σ β) (job : Job α σ β) (state : σ)
    : Option (Queue α σ β × List (Mark α β)) :=
  if job.stage.isWaiting && queue.free job then
    some (queue.advance job.ticket (.running state), [.started job.uri job.ticket job.task])
  else none

/-- A job that runs gets on. -/
def proceed? (queue : Queue α σ β) (job : Job α σ β) (state : σ)
    : Option (Queue α σ β × List (Mark α β)) :=
  if job.stage.isRunning then some (queue.advance job.ticket (.running state), []) else none

/-- A job that runs settles. -/
def settle? (queue : Queue α σ β) (job : Job α σ β) (outcome : β)
    : Option (Queue α σ β × List (Mark α β)) :=
  if job.stage.isRunning then
    some (queue.advance job.ticket (.ended outcome), [.settled job.uri job.ticket outcome])
  else none

/-- A job that is over leaves. -/
def leave? (queue : Queue α σ β) (job : Job α σ β) : Option (Queue α σ β × List (Mark α β)) :=
  match job.stage with
  | .ended outcome => some (queue.leave job, [.returned job.uri job.ticket outcome])
  | _ => none

/-- One turn; none if it is not possible now. -/
def step? (queue : Queue α σ β) : Turn α σ β → Option (Queue α σ β × List (Mark α β))
  | .arrive uri task => some (queue.arrive uri task, [])
  | .start ticket state => (queue.job? ticket).bind fun job => queue.start? job state
  | .proceed ticket state => (queue.job? ticket).bind fun job => queue.proceed? job state
  | .settle ticket outcome => (queue.job? ticket).bind fun job => queue.settle? job outcome
  | .leave ticket => (queue.job? ticket).bind queue.leave?

/-- Turns one after the other; none if one is not possible when it is due. -/
def run (queue : Queue α σ β) : List (Turn α σ β) → Option (Queue α σ β × List (Mark α β))
  | [] => some (queue, [])
  | turn :: rest => do
      let (next, marks) ← queue.step? turn
      let (last, others) ← next.run rest
      return (last, marks ++ others)

/-- The document and the task of an arrival. -/
def Turn.arrival? : Turn α σ β → Option (String × α)
  | arrive uri task => some (uri, task)
  | _ => none

/-- All arrivals, each at the index that is its ticket. -/
def arrived (turns : List (Turn α σ β)) : List (String × α) := turns.filterMap Turn.arrival?

/-- The tickets and tasks that arrive for a document, in their order. -/
def arrivals (uri : String) (turns : List (Turn α σ β)) : List (Nat × α) :=
  (arrived turns).zipIdx.filterMap fun entry =>
    if entry.1.1 = uri then some (entry.2, entry.1.2) else none

/-- What settles a job, with its ticket. -/
def Turn.settlement? : Turn α σ β → Option (Nat × β)
  | settle ticket outcome => some (ticket, outcome)
  | _ => none

namespace Mark

/-- The start of a job of a document. -/
def start? (uri : String) : Mark α β → Option (Nat × α)
  | started other ticket task => if other = uri then some (ticket, task) else none
  | _ => none

/-- The settlement of a job of a document. -/
def settlement? (uri : String) : Mark α β → Option (Nat × β)
  | settled other ticket outcome => if other = uri then some (ticket, outcome) else none
  | _ => none

/-- What the caller of a job of a document gets. -/
def return? (uri : String) : Mark α β → Option (Nat × β)
  | returned other ticket outcome => if other = uri then some (ticket, outcome) else none
  | _ => none

end Mark

/-- The jobs of a document that have started, in this order. -/
def starts (uri : String) (marks : List (Mark α β)) : List (Nat × α) :=
  marks.filterMap (Mark.start? uri)

/-- The jobs of a document that have settled, in this order. -/
def settlements (uri : String) (marks : List (Mark α β)) : List (Nat × β) :=
  marks.filterMap (Mark.settlement? uri)

/-- What the callers of a document have got. -/
def returns (uri : String) (marks : List (Mark α β)) : List (Nat × β) :=
  marks.filterMap (Mark.return? uri)

/-- A job of a document has settled. -/
def HasSettled (uri : String) (ticket : Nat) (marks : List (Mark α β)) : Prop :=
  ticket ∈ (settlements uri marks).map Prod.fst

/-- A job of a document has started and not settled. -/
def InProgress (uri : String) (ticket : Nat) (marks : List (Mark α β)) : Prop :=
  ticket ∈ (starts uri marks).map Prod.fst ∧ ¬ HasSettled uri ticket marks

end Highlighter.Queue
