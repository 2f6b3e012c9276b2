import Highlighter.Proofs.Queue.History
import Highlighter.Queue.Rehearsal

/-! Rehearsals are runs. Whatever a rehearsal does with its queue is done by turns that are possible
when they are due, and its reports tell of their marks.
-/

namespace Highlighter

namespace Queue

variable {α σ β : Type} {queue next last : Queue α σ β} {turns more : List (Turn α σ β)}
  {marks others : List (Mark α β)}

/-- A run goes on where another one has ended. -/
theorem run_append (first : queue.run turns = some (next, marks))
    (second : next.run more = some (last, others))
    : queue.run (turns ++ more) = some (last, marks ++ others) := by
  induction turns generalizing queue marks with
  | nil =>
      obtain ⟨rfl, rfl⟩ := Prod.mk.inj (Option.some.inj first)
      exact second
  | cons turn rest ih =>
      obtain ⟨middle, here, final, later, stepped, ran, result⟩ := exists_of_run_cons first
      obtain ⟨rfl, rfl⟩ := Prod.mk.inj result
      simp [run, stepped, ih ran]

theorem run_singleton {turn : Turn α σ β} (stepped : queue.step? turn = some (next, marks))
    : queue.run [turn] = some (next, marks) := by
  simp [run, stepped]

/-- Runs keep the order, by induction over the turns. -/
theorem Orderly.run (orderly : queue.Orderly) (ran : queue.run turns = some (next, marks))
    : next.Orderly := by
  induction turns generalizing queue marks with
  | nil =>
      obtain ⟨rfl, rfl⟩ := Prod.mk.inj (Option.some.inj ran)
      exact orderly
  | cons turn rest ih =>
      obtain ⟨middle, here, final, later, stepped, continued, result⟩ := exists_of_run_cons ran
      obtain ⟨rfl, rfl⟩ := Prod.mk.inj result
      exact ih (orderly.step (step?_steps stepped)) continued

/-- The task that a mark tells to have started. -/
def Mark.startedTask? : Mark α β → Option α
  | started _ _ task => some task
  | _ => none

/-- The outcome that a mark tells to have been settled with. -/
def Mark.settledOutcome? : Mark α β → Option β
  | settled _ _ outcome => some outcome
  | _ => none

end Queue

variable {α : Type}

/-- A report that another one continues tells what the marks do. -/
structure Report.Tells (before after : Report α)
    (marks : List (Queue.Mark String (TaskOutcome α)))
    : Prop where
  started : after.started = before.started ++ marks.filterMap Queue.Mark.startedTask?
  settled
    : after.settled.map Prod.snd
      = before.settled.map Prod.snd ++ marks.filterMap Queue.Mark.settledOutcome?

namespace TaskQueue

/-- Starting the next job of a document is a turn, or nothing starts. -/
theorem run_startNext {queue : TaskQueue α} (orderly : queue.Orderly) (uri : String)
    : ∃ turns marks,
        queue.run turns = some ((queue.startNext uri).1, marks)
        ∧ marks.filterMap Queue.Mark.startedTask? = (queue.startNext uri).2
        ∧ marks.filterMap Queue.Mark.settledOutcome? = [] := by
  simp only [startNext]
  split
  next job found =>
    have may := List.find?_some found
    simp only [Bool.and_eq_true] at may
    obtain ⟨⟨_, waiting⟩, free⟩ := may
    refine ⟨[.start job.ticket queue.nextNumber], [.started job.uri job.ticket job.task], ?_, rfl,
      rfl⟩
    refine Queue.run_singleton ?_
    simp [Queue.step?, orderly.job?_of_mem (List.mem_of_find?_eq_some found), Queue.start?, waiting,
      free]
  next => exact ⟨[], [], rfl, rfl, rfl⟩

/-- A job that runs settles and leaves in two turns. -/
theorem run_settle {queue : TaskQueue α} (orderly : queue.Orderly)
    {job : Job String Nat (TaskOutcome α)} (member : job ∈ queue.jobs)
    (runs : job.stage.isRunning = true) (outcome : TaskOutcome α)
    : queue.run [.settle job.ticket outcome, .leave job.ticket]
      = some ((queue.advance job.ticket (.ended outcome)).leave job,
          [.settled job.uri job.ticket outcome, .returned job.uri job.ticket outcome]) := by
  obtain ⟨state, running⟩ := Queue.eq_running.mp runs
  obtain ⟨rest, head⟩ := orderly.head_of_running member running
  have settled : queue.step? (.settle job.ticket outcome)
      = some (queue.advance job.ticket (.ended outcome),
          [.settled job.uri job.ticket outcome]) := by
    simp [Queue.step?, orderly.job?_of_mem member, Queue.settle?, runs]
  have present : { job with stage := .ended outcome }
      ∈ (queue.advance job.ticket (.ended outcome)).jobs :=
    List.mem_map.mpr ⟨job, member, if_pos rfl⟩
  have found := (orderly.advance member head (.ended outcome)).job?_of_mem present
  have left : (queue.advance job.ticket (.ended outcome)).step? (.leave job.ticket)
      = some ((queue.advance job.ticket (.ended outcome)).leave job,
          [.returned job.uri job.ticket outcome]) := by
    rw [Queue.step?, found]
    rfl
  exact Queue.run_append (Queue.run_singleton settled) (Queue.run_singleton left)

end TaskQueue

/-- A report goes on with what further marks tell. -/
theorem Report.Tells.trans {first second third : Report α}
    {marks others : List (Queue.Mark String (TaskOutcome α))} (one : first.Tells second marks)
    (two : second.Tells third others)
    : first.Tells third (marks ++ others) := by
  constructor
  · rw [two.started, one.started, List.filterMap_append, List.append_assoc]
  · rw [two.settled, one.settled, List.filterMap_append, List.append_assoc]

namespace Rehearsal

/-- Going on is a run whose marks are reported, by induction over the looks at documents. -/
theorem run_goOn (outcome? : String → Option (TaskOutcome α)) (steps : Nat)
    {queue : TaskQueue α} (orderly : queue.Orderly) (uris : List String) (report : Report α)
    : ∃ turns marks,
        queue.run turns = some ((goOn outcome? steps queue uris report).1, marks)
        ∧ report.Tells (goOn outcome? steps queue uris report).2 marks := by
  induction steps generalizing queue uris report with
  | zero => exact ⟨[], [], rfl, by simp [goOn], by simp [goOn]⟩
  | succ steps ih =>
      cases uris with
      | nil => exact ⟨[], [], rfl, by simp [goOn], by simp [goOn]⟩
      | cons uri others =>
          rw [goOn]
          cases running : queue.running? uri with
          | none => exact ih orderly others report
          | some job =>
              have member : job ∈ queue.jobs := List.mem_of_find?_eq_some running
              have found := List.find?_some running
              have runs : job.stage.isRunning = true := (Bool.and_eq_true_iff.mp found).2
              cases known : outcome? job.task with
              | none =>
                  simp only [known]
                  exact ih orderly others report
              | some outcome =>
                  simp only [known]
                  have settled := TaskQueue.run_settle orderly member runs outcome
                  have left := orderly.run settled
                  obtain ⟨turns, marks, ran, started, nothing⟩ :=
                    TaskQueue.run_startNext left uri
                  obtain ⟨more, later, goes, tells⟩ := ih (left.run ran) (others ++ [uri])
                    ⟨report.started ++ _, report.settled ++ [(job.task, outcome)]⟩
                  refine ⟨_, _, Queue.run_append (Queue.run_append settled ran) goes,
                    Report.Tells.trans ?_ tells⟩
                  constructor
                  · rw [← started]
                    rfl
                  · rw [List.filterMap_append, nothing, List.map_append]
                    rfl

/-- A task that is queued arrives, and whatever goes on then is a run that is reported. -/
theorem run_arrive {rehearsal : Rehearsal α} (orderly : Queue.Orderly rehearsal.queue)
    (uri task : String)
    : ∃ turns marks,
        rehearsal.queue.run turns = some ((rehearsal.arrive uri task).1.queue, marks)
        ∧ Report.Tells ⟨[], []⟩ (rehearsal.arrive uri task).2 marks := by
  have arrived : rehearsal.queue.run [.arrive uri task]
      = some (rehearsal.queue.arrive uri task, []) :=
    Queue.run_singleton rfl
  have joined := orderly.run arrived
  obtain ⟨turns, marks, ran, started, nothing⟩ := TaskQueue.run_startNext joined uri
  simp only [arrive, proceed]
  obtain ⟨more, later, goes, tells⟩ := run_goOn rehearsal.outcome? _ (joined.run ran) [uri] ⟨_, []⟩
  refine ⟨_, _, Queue.run_append (Queue.run_append arrived ran) goes, Report.Tells.trans ?_ tells⟩
  exact ⟨started.symm, nothing.symm⟩

/-- An outcome that is given lets a run go on that is reported, or was given before. -/
theorem run_decide {rehearsal : Rehearsal α} (orderly : Queue.Orderly rehearsal.queue)
    (task : String) (outcome : TaskOutcome α)
    : ∃ turns marks,
        rehearsal.queue.run turns = some ((rehearsal.decide task outcome).1.queue, marks)
        ∧ Report.Tells ⟨[], []⟩ (rehearsal.decide task outcome).2 marks := by
  rw [decide]
  split
  next => exact ⟨[], [], rfl, rfl, rfl⟩
  next => exact run_goOn _ _ orderly _ _

end Rehearsal

end Highlighter
