import Highlighter.ByUri

/-! Work queued by document. The queue keeps the tail of each document, the job that arrived last
for it. A job that arrives waits for the tail that it finds and becomes the tail itself; when that
one is over, well or badly, it may start. A job that is over leaves, and its document has no tail
any more unless another job has become it.
-/

namespace Highlighter

/-- How far a job has come: it waits for its turn, runs in some state, or is over. -/
inductive Stage (σ β : Type) where
  | waiting
  | running (state : σ)
  | ended (outcome : β)
deriving DecidableEq, Repr

/-- A job that has arrived: its ticket, its document, the tail that it found, and its task. -/
structure Job (α σ β : Type) where
  ticket : Nat
  uri : String
  after : Option Nat
  task : α
  stage : Stage σ β
deriving DecidableEq, Repr

/-- The jobs that have not left in the order of their arrival, the tails, and the ticket of the
next job.
-/
structure Queue (α σ β : Type) where
  next : Nat
  tails : ByUri Nat
  jobs : List (Job α σ β)
deriving DecidableEq, Repr

namespace Stage

variable {σ β : Type}

/-- Nothing is left to do. -/
def isOver : Stage σ β → Bool
  | ended _ => true
  | _ => false

/-- The work is being done. -/
def isRunning : Stage σ β → Bool
  | running _ => true
  | _ => false

/-- The turn has not come yet. -/
def isWaiting : Stage σ β → Bool
  | waiting => true
  | _ => false

end Stage

namespace Queue

variable {α σ β : Type}

/-- No job at all. -/
def empty : Queue α σ β := ⟨0, .empty, []⟩

/-- The job with a ticket, unless it has left. -/
def job? (queue : Queue α σ β) (ticket : Nat) : Option (Job α σ β) :=
  queue.jobs.find? fun job => job.ticket = ticket

/-- The job with that ticket is not over. -/
def unsettled (queue : Queue α σ β) (ticket : Nat) : Bool :=
  queue.jobs.any fun job => job.ticket = ticket && !job.stage.isOver

/-- A job may start: it waits for nothing that is not over. -/
def free (queue : Queue α σ β) (job : Job α σ β) : Bool :=
  match job.after with
  | none => true
  | some tail => !queue.unsettled tail

/-- A job arrives behind the tail of its document. -/
def arrive (queue : Queue α σ β) (uri : String) (task : α) : Queue α σ β :=
  let job := ⟨queue.next, uri, queue.tails.get? uri, task, .waiting⟩
  ⟨queue.next + 1, queue.tails.set uri queue.next, queue.jobs ++ [job]⟩

/-- The job with a ticket gets on to a stage. -/
def advance (queue : Queue α σ β) (ticket : Nat) (stage : Stage σ β) : Queue α σ β :=
  { queue with jobs := queue.jobs.map fun job =>
      if job.ticket = ticket then { job with stage := stage } else job }

/-- A job leaves, and is no tail any more if it still was one. -/
def leave (queue : Queue α σ β) (job : Job α σ β) : Queue α σ β :=
  let tails :=
    if queue.tails.get? job.uri = some job.ticket then queue.tails.erase job.uri
    else queue.tails
  { queue with tails := tails, jobs := queue.jobs.filter fun other => other.ticket ≠ job.ticket }

/-- The documents that have a tail. -/
def pending (queue : Queue α σ β) : List String := queue.tails.uris

end Queue

end Highlighter
