import Highlighter.Queue

/-! A queue of named tasks that do nothing but wait for an outcome. Outcomes are given by name,
before or after a task of that name starts, and only the first one of a name counts; whenever one
is given, everything that can go on does.
-/

namespace Highlighter

/-- How a task ends, with a value or with a message. -/
inductive TaskOutcome (α : Type) where
  | finished (value : α)
  | failed (message : String)
deriving Repr

/-- What the tasks of a queue report while it goes on. -/
structure Report (α : Type) where
  started : List String
  settled : List (String × TaskOutcome α)
deriving Repr

/-- A queue of named tasks. Those that run are numbered in the order in which they started. -/
abbrev TaskQueue (α : Type) := Queue String Nat (TaskOutcome α)

namespace TaskQueue

variable {α : Type}

/-- The job of a document that runs. -/
def running? (queue : TaskQueue α) (uri : String) : Option (Job String Nat (TaskOutcome α)) :=
  queue.jobs.find? fun job => job.uri = uri && job.stage.isRunning

/-- The number of a job that runs. -/
def number (job : Job String Nat (TaskOutcome α)) : Nat :=
  match job.stage with
  | .running number => number
  | _ => 0

/-- A number above those of all jobs that run. -/
def nextNumber (queue : TaskQueue α) : Nat :=
  queue.jobs.foldr (fun job least => max (number job + 1) least) 0

/-- Starts the job of a document that may start, and names its task. -/
def startNext (queue : TaskQueue α) (uri : String) : TaskQueue α × List String :=
  let startable (job : Job String Nat (TaskOutcome α)) : Bool :=
    job.uri = uri && job.stage.isWaiting && queue.free job
  match queue.jobs.find? startable with
  | some job => (queue.advance job.ticket (.running queue.nextNumber), [job.task])
  | none => (queue, [])

/-- The documents that run a task of a name, in the order in which these started. -/
def urisRunning (queue : TaskQueue α) (task : String) : List String :=
  let jobs := queue.jobs.filter fun job => job.stage.isRunning && job.task = task
  (jobs.mergeSort fun a b => number a ≤ number b).map Job.uri

end TaskQueue

/-- A queue of named tasks, and the outcomes that are known. -/
structure Rehearsal (α : Type) where
  queue : TaskQueue α
  outcomes : List (String × TaskOutcome α)

namespace Rehearsal

variable {α : Type}

/-- Nothing is queued or known. -/
def initial : Rehearsal α := ⟨.empty, []⟩

/-- The outcome of tasks of that name, if it is known. -/
def outcome? (rehearsal : Rehearsal α) (task : String) : Option (TaskOutcome α) :=
  (rehearsal.outcomes.find? fun entry => entry.1 = task).map (·.2)

/-- Looks at documents in turn. A running task whose outcome is known settles and leaves, the next
one of its document starts, and the document is looked at again after the others.
-/
def goOn (outcome? : String → Option (TaskOutcome α))
    : Nat → TaskQueue α → List String → Report α → TaskQueue α × Report α
  | 0, queue, _, report => (queue, report)
  | _ + 1, queue, [], report => (queue, report)
  | steps + 1, queue, uri :: others, report =>
      match queue.running? uri with
      | none => goOn outcome? steps queue others report
      | some job =>
          match outcome? job.task with
          | none => goOn outcome? steps queue others report
          | some outcome =>
              let left := (queue.advance job.ticket (.ended outcome)).leave job
              let (next, started) := TaskQueue.startNext left uri
              goOn outcome? steps next (others ++ [uri])
                ⟨report.started ++ started, report.settled ++ [(job.task, outcome)]⟩

/-- Goes on with some documents until nothing can. Each look settles a task or is the last one at a
document.
-/
def proceed (rehearsal : Rehearsal α) (uris : List String) (started : List String)
    : Rehearsal α × Report α :=
  let (queue, report) := goOn rehearsal.outcome? (rehearsal.queue.jobs.length + uris.length)
    rehearsal.queue uris ⟨started, []⟩
  ({ rehearsal with queue := queue }, report)

/-- A task is queued. -/
def arrive (rehearsal : Rehearsal α) (uri task : String) : Rehearsal α × Report α :=
  let (queue, started) := TaskQueue.startNext (rehearsal.queue.arrive uri task) uri
  proceed { rehearsal with queue := queue } [uri] started

/-- An outcome is given to all tasks of a name. -/
def decide (rehearsal : Rehearsal α) (task : String) (outcome : TaskOutcome α)
    : Rehearsal α × Report α :=
  match rehearsal.outcome? task with
  | some _ => (rehearsal, ⟨[], []⟩)
  | none =>
      let decided := { rehearsal with outcomes := (task, outcome) :: rehearsal.outcomes }
      decided.proceed (TaskQueue.urisRunning decided.queue task) []

end Rehearsal

end Highlighter
