import Highlighter.Proofs.Queue.History

/-! The discipline of a queue. Whatever arrives and in whatever order jobs go on, the jobs of a
document take their turns one at a time in the order of their arrival, callers get what their own
jobs settled with, and no document waits for another one.
-/

namespace Highlighter.Queue

variable {α σ β : Type} {queue : Queue α σ β} {turns : List (Turn α σ β)}
  {marks : List (Mark α β)}

-----------------------------------------------------------------------------------------
-- Outcomes that are owed
-----------------------------------------------------------------------------------------

/-- The ticket and the outcome of a job of a document that is over. -/
def ended? (uri : String) (job : Job α σ β) : Option (Nat × β) :=
  match job.stage with
  | .ended outcome => if job.uri = uri then some (job.ticket, outcome) else none
  | _ => none

/-- The outcomes that the callers of a document have not got yet. -/
def owed (queue : Queue α σ β) (uri : String) : List (Nat × β) :=
  queue.jobs.filterMap (ended? uri)

theorem ended?_of_going {uri : String} {job : Job α σ β} (going : job.stage.isOver = false)
    : ended? uri job = none := by
  unfold ended?
  split
  next ended => simp [ended, Stage.isOver] at going
  next => rfl

/-- What is owed belongs to a job that is over. -/
theorem mem_owed {uri : String} {ticket : Nat} {outcome : β}
    : (ticket, outcome) ∈ queue.owed uri
      ↔ ∃ job ∈ queue.jobs,
          job.ticket = ticket ∧ job.uri = uri ∧ job.stage = .ended outcome := by
  simp only [owed, List.mem_filterMap]
  refine exists_congr fun job => and_congr_right fun _ => ?_
  cases stage : job.stage with
  | waiting | running _ => simp [ended?, stage]
  | ended other =>
      by_cases same : job.uri = uri <;> simp [ended?, stage, same]

/-- An advance adds the outcome of its job to what is owed, if that is over then. -/
theorem Orderly.owed_advance (orderly : queue.Orderly) {job : Job α σ β}
    (member : job ∈ queue.jobs) (going : job.stage.isOver = false) (stage : Stage σ β)
    (uri : String)
    : ((queue.advance job.ticket stage).owed uri).Perm
        (queue.owed uri ++ (ended? uri { job with stage := stage }).toList) := by
  obtain ⟨front, back, jobs, before, after⟩ := orderly.split member
  have advanced := jobs_advance jobs before after stage
  simp only [owed, advanced, jobs, List.filterMap_append, List.filterMap_cons,
    ended?_of_going going]
  cases ended? uri { job with stage := stage } with
  | none => simp
  | some settled =>
      rw [Option.toList_some, List.append_assoc]
      exact (List.perm_append_singleton settled _).symm.append_left _

/-- A job that leaves takes its outcome away from what is owed. -/
theorem Orderly.owed_leave (orderly : queue.Orderly) {job : Job α σ β}
    (member : job ∈ queue.jobs) (uri : String)
    : (queue.owed uri).Perm ((ended? uri job).toList ++ (queue.leave job).owed uri) := by
  obtain ⟨front, back, jobs, before, after⟩ := orderly.split member
  have left := jobs_leave jobs before after
  simp only [owed, left, jobs, List.filterMap_append, List.filterMap_cons]
  cases ended? uri job with
  | none => simp
  | some settled => exact List.perm_middle

/-- What settles is owed until it is returned, by cases on the turn. -/
theorem Orderly.owed_step (orderly : queue.Orderly) {turn : Turn α σ β}
    {result : Queue α σ β × List (Mark α β)} (steps : queue.Steps turn result) (uri : String)
    : (returns uri result.2 ++ result.1.owed uri).Perm
        (queue.owed uri ++ settlements uri result.2) := by
  have unfinished {job : Job α σ β} {state : σ} (running : job.stage = .running state)
      : job.stage.isOver = false := by
    simp [running, Stage.isOver]
  cases steps with
  | arrive other task =>
      simp [returns, settlements, owed, Queue.arrive, List.filterMap_cons, ended?]
  | @start job member waiting free state =>
      have owes := orderly.owed_advance member (by simp [waiting, Stage.isOver])
        (.running state) uri
      simpa [returns, settlements, List.filterMap_cons, Mark.return?, Mark.settlement?, ended?]
        using owes
  | @proceed job before member running state =>
      have owes := orderly.owed_advance member (unfinished running) (.running state) uri
      simpa [returns, settlements, ended?] using owes
  | @settle job state member running outcome =>
      have owes := orderly.owed_advance member (unfinished running) (.ended outcome) uri
      have settled
          : settlements uri [(.settled job.uri job.ticket outcome : Mark α β)]
            = (ended? uri ({ job with stage := .ended outcome } : Job α σ β)).toList := by
        by_cases same : job.uri = uri <;> simp [settlements, Mark.settlement?, ended?, same]
      rw [settled]
      exact owes
  | @leave job outcome member ended =>
      have owes := orderly.owed_leave member uri
      have returned
          : returns uri [(.returned job.uri job.ticket outcome : Mark α β)]
            = (ended? uri job).toList := by
        by_cases same : job.uri = uri <;> simp [returns, Mark.return?, ended?, ended, same]
      have quiet
          : settlements uri [(.returned job.uri job.ticket outcome : Mark α β)] = [] := rfl
      rw [returned, quiet, List.append_nil]
      exact owes.symm

-----------------------------------------------------------------------------------------
-- Starts in turn
-----------------------------------------------------------------------------------------

/-- When a job starts, all that arrived earlier for its document have settled. -/
def InTurn (turns : List (Turn α σ β)) (marks : List (Mark α β)) : Prop :=
  ∀ uri ticket task before after,
    marks = before ++ .started uri ticket task :: after
    → ∀ earlier ∈ arrivals uri turns, earlier.1 < ticket → HasSettled uri earlier.1 before

/-- The mark of a start is the last one, or it was there before. -/
theorem split_concat {mark last : Mark α β} {before after : List (Mark α β)}
    (whole : marks ++ [last] = before ++ mark :: after)
    : (before = marks ∧ mark = last) ∨ ∃ rest, marks = before ++ mark :: rest := by
  rcases List.eq_nil_or_concat after with rfl | ⟨rest, final, rfl⟩
  · obtain ⟨same, tail⟩ := List.append_inj' whole rfl
    exact .inl ⟨same.symm, (List.head_eq_of_cons_eq tail).symm⟩
  · refine .inr ⟨rest, ?_⟩
    rw [List.concat_eq_append, ← List.cons_append, ← List.append_assoc] at whole
    exact (List.append_inj' whole rfl).1

theorem mem_starts {uri : String} {ticket : Nat} {task : α}
    (member : .started uri ticket task ∈ marks)
    : (ticket, task) ∈ starts uri marks :=
  List.mem_filterMap.mpr ⟨_, member, if_pos rfl⟩

namespace InTurn

/-- A mark that is no start changes nothing. -/
theorem concat (inTurn : InTurn turns marks) {turn : Turn α σ β} (quiet : turn.arrival? = none)
    {mark : Mark α β} (noStart : ∀ uri, mark.start? uri = none)
    : InTurn (turns ++ [turn]) (marks ++ [mark]) := by
  intro uri ticket task before after whole earlier arrived less
  rw [arrivals_quiet uri turns quiet] at arrived
  rcases split_concat whole with ⟨_, rfl⟩ | ⟨rest, split⟩
  · have here := noStart uri
    simp [Mark.start?] at here
  · exact inTurn uri ticket task before rest split earlier arrived less

/-- A job that arrives has a greater ticket than all that have started. -/
theorem arrive (inTurn : InTurn turns marks)
    (issued
      : ∀ uri, ∀ job ∈ starts uri marks, job.1 < (arrived turns).length)
    (other : String) (task : α)
    : InTurn (turns ++ [.arrive other task]) marks := by
  intro uri ticket started before after whole earlier arrived less
  rw [arrivals_arrive] at arrived
  rcases List.mem_append.mp arrived with known | newest
  · exact inTurn uri ticket started before after whole earlier known less
  · have present : Mark.started uri ticket started ∈ marks := whole ▸ by simp
    have small := issued uri _ (mem_starts present)
    split at newest
    next =>
      rw [List.mem_singleton.mp newest] at less
      exact absurd less (Nat.lt_asymm small)
    next => contradiction

/-- A job starts as the head of its lane, when all before that are done. -/
theorem start (inTurn : InTurn turns marks) {job : Job α σ β} {rest : List (Job α σ β)}
    (head : queue.lane job.uri = job :: rest) {done : List (Nat × α × β)}
    (history : History job.uri turns queue marks done) (state : σ)
    : InTurn (turns ++ [.start job.ticket state])
        (marks ++ [.started job.uri job.ticket job.task]) := by
  intro uri ticket task before after whole earlier arrived less
  rw [arrivals_quiet uri turns rfl] at arrived
  rcases split_concat whole with ⟨rfl, same⟩ | ⟨rest, split⟩
  · injection same with sameUri sameTicket _
    subst sameUri sameTicket
    have ascending := arrivals_ascending job.uri turns
    rw [history.arrived, head, List.map_cons] at arrived ascending
    rcases List.mem_append.mp arrived with settled | waiting
    · obtain ⟨one, member, rfl⟩ := List.mem_map.mp settled
      rw [HasSettled, history.settled, List.map_map]
      exact List.mem_map.mpr ⟨one, member, rfl⟩
    · have behind := (List.pairwise_append.mp ascending).2.1
      rcases List.mem_cons.mp waiting with rfl | later
      · exact absurd less (Nat.lt_irrefl _)
      · exact absurd less (Nat.lt_asymm ((List.pairwise_cons.mp behind).1 earlier later))
  · exact inTurn uri ticket task before rest split earlier arrived less

end InTurn

-----------------------------------------------------------------------------------------
-- Every turn
-----------------------------------------------------------------------------------------

/-- What holds of a queue and the marks that its turns have left. -/
structure Ledger (turns : List (Turn α σ β)) (queue : Queue α σ β) (marks : List (Mark α β))
    : Prop where
  orderly : queue.Orderly
  counted : queue.next = (arrived turns).length
  histories : ∀ uri, ∃ done, History uri turns queue marks done
  settled
    : ∀ ticket outcome,
        .settle ticket outcome ∈ turns ↔ ∃ uri, (ticket, outcome) ∈ settlements uri marks
  owed : ∀ uri, (returns uri marks ++ queue.owed uri).Perm (settlements uri marks)
  inTurn : InTurn turns marks

namespace Ledger

theorem initial : Ledger [] (.empty : Queue α σ β) [] where
  orderly := .empty
  counted := rfl
  histories := fun uri => ⟨[], .initial uri⟩
  settled := by simp [settlements]
  owed := fun _ => .refl []
  inTurn := by simp [InTurn]

/-- Only jobs that have arrived start. -/
theorem issued (ledger : Ledger turns queue marks) (uri : String)
    : ∀ job ∈ starts uri marks, job.1 < (arrived turns).length := by
  intro job member
  obtain ⟨done, history⟩ := ledger.histories uri
  have arrives : job ∈ arrivals uri turns := by
    rw [history.started] at member
    rw [history.arrived]
    rcases List.mem_append.mp member with settled | runs
    · exact List.mem_append_left _ settled
    · exact List.mem_append_right _ (List.map_subset entry (List.filter_subset_self _) runs)
  exact (List.getElem?_eq_some_iff.mp (mem_arrivals.mp arrives)).1

/-- The turns that settle jobs are those that are seen to. -/
theorem settled_step (ledger : Ledger turns queue marks) {turn : Turn α σ β}
    {result : Queue α σ β × List (Mark α β)} (steps : queue.Steps turn result) (ticket : Nat)
    (outcome : β)
    : .settle ticket outcome ∈ turns ++ [turn]
      ↔ ∃ uri, (ticket, outcome) ∈ settlements uri (marks ++ result.2) := by
  have before := ledger.settled ticket outcome
  simp only [settlements] at before
  cases steps with
  | arrive _ _ | start _ _ _ _ | proceed _ _ _ | leave _ _ =>
      simp [settlements, List.filterMap_append, Mark.settlement?, before]
  | @settle job state member running ended =>
      simp only [settlements, List.filterMap_append, List.mem_append, before, exists_or]
      refine or_congr_right ?_
      simp [Mark.settlement?, eq_comm]

/-- Every turn keeps the ledger, by cases on the turn. -/
theorem step (ledger : Ledger turns queue marks) {turn : Turn α σ β}
    {result : Queue α σ β × List (Mark α β)} (stepped : queue.step? turn = some result)
    : Ledger (turns ++ [turn]) result.1 (marks ++ result.2) := by
  have steps := step?_steps stepped
  constructor
  case orderly => exact ledger.orderly.step steps
  case counted =>
    rw [arrived_append, List.length_append, ← ledger.counted]
    cases steps <;> rfl
  case histories =>
    intro uri
    obtain ⟨done, history⟩ := ledger.histories uri
    exact history.step ledger.orderly ledger.counted steps
  case settled => exact ledger.settled_step steps
  case owed =>
    intro uri
    have stepwise := (ledger.orderly.owed_step steps uri).append_left (returns uri marks)
    have before := (ledger.owed uri).append_right (settlements uri result.2)
    simp only [returns, settlements, List.filterMap_append, List.append_assoc] at *
    exact stepwise.trans before
  case inTurn =>
    cases steps with
    | arrive other task =>
        rw [List.append_nil]
        exact ledger.inTurn.arrive ledger.issued other task
    | @start job member waiting free state =>
        obtain ⟨rest, head⟩ := ledger.orderly.head_of_free member waiting free
        obtain ⟨done, history⟩ := ledger.histories job.uri
        exact ledger.inTurn.start head history state
    | proceed member running state =>
        intro uri ticket task before after whole earlier arrived
        rw [List.append_nil] at whole
        rw [arrivals_quiet uri turns rfl] at arrived
        exact ledger.inTurn uri ticket task before after whole earlier arrived
    | settle member running outcome => exact ledger.inTurn.concat rfl fun uri => rfl
    | leave member ended => exact ledger.inTurn.concat rfl fun uri => rfl

/-- Every run keeps the ledger, by induction over its turns. -/
theorem run (ledger : Ledger turns queue marks) {more : List (Turn α σ β)}
    {result : Queue α σ β × List (Mark α β)} (ran : queue.run more = some result)
    : Ledger (turns ++ more) result.1 (marks ++ result.2) := by
  induction more generalizing queue turns marks result with
  | nil =>
      rw [← Option.some.inj ran]
      simpa only [List.append_nil] using ledger
  | cons turn rest ih =>
      obtain ⟨next, first, last, others, stepped, continued, rfl⟩ := exists_of_run_cons ran
      simpa only [List.append_assoc, List.cons_append, List.nil_append] using
        ih (ledger.step stepped) continued

end Ledger

-----------------------------------------------------------------------------------------
-- When a turn is possible
-----------------------------------------------------------------------------------------

namespace Orderly

theorem can_start_iff (orderly : queue.Orderly) {ticket : Nat} {state : σ}
    : (queue.step? (.start ticket state)).isSome = true
      ↔ ∃ job ∈ queue.jobs,
          job.ticket = ticket ∧ job.stage = .waiting ∧ queue.free job = true := by
  constructor
  · intro can
    obtain ⟨result, stepped⟩ := Option.isSome_iff_exists.mp can
    cases step?_steps stepped with
    | start member waiting free _ => exact ⟨_, member, rfl, waiting, free⟩
  · rintro ⟨job, member, rfl, waiting, free⟩
    simp [step?, orderly.job?_of_mem member, start?, waiting, free, Stage.isWaiting]

theorem can_settle_iff (orderly : queue.Orderly) {ticket : Nat} {outcome : β}
    : (queue.step? (.settle ticket outcome)).isSome = true
      ↔ ∃ job ∈ queue.jobs, job.ticket = ticket ∧ job.stage.isRunning = true := by
  constructor
  · intro can
    obtain ⟨result, stepped⟩ := Option.isSome_iff_exists.mp can
    cases step?_steps stepped with
    | settle member running _ => exact ⟨_, member, rfl, eq_running.mpr ⟨_, running⟩⟩
  · rintro ⟨job, member, rfl, running⟩
    simp [step?, orderly.job?_of_mem member, settle?, running]

theorem can_leave_iff (orderly : queue.Orderly) {ticket : Nat}
    : (queue.step? (.leave ticket)).isSome = true
      ↔ ∃ job ∈ queue.jobs, job.ticket = ticket ∧ ∃ outcome, job.stage = .ended outcome := by
  constructor
  · intro can
    obtain ⟨result, stepped⟩ := Option.isSome_iff_exists.mp can
    cases step?_steps stepped with
    | leave member ended => exact ⟨_, member, rfl, _, ended⟩
  · rintro ⟨job, member, rfl, outcome, ended⟩
    simp [step?, orderly.job?_of_mem member, leave?, ended]

end Orderly

namespace Ledger

/-- A job of a lane has arrived for its document. -/
theorem arrives (ledger : Ledger turns queue marks) {uri : String} {job : Job α σ β}
    (member : job ∈ queue.lane uri)
    : entry job ∈ arrivals uri turns := by
  obtain ⟨done, history⟩ := ledger.histories uri
  rw [history.arrived]
  exact List.mem_append_right _ (List.mem_map_of_mem member)

/-- A job with a ticket of a document is about that document. -/
theorem uri_of_ticket (ledger : Ledger turns queue marks) {uri : String} {job : Job α σ β}
    (member : job ∈ queue.lane job.uri)
    (arrives : job.ticket ∈ (arrivals uri turns).map Prod.fst)
    : job.uri = uri :=
  uri_of_arrivals arrives (List.mem_map_of_mem (ledger.arrives member))

/-- What has arrived is done or in its lane, and not both. -/
theorem unsettled_iff (ledger : Ledger turns queue marks) {uri : String} {ticket : Nat}
    (arrives : ticket ∈ (arrivals uri turns).map Prod.fst)
    : ¬ HasSettled uri ticket marks ↔ ∃ job ∈ queue.lane uri, job.ticket = ticket := by
  obtain ⟨done, history⟩ := ledger.histories uri
  have distinct := arrivals_nodup uri turns
  have tickets
      : (arrivals uri turns).map Prod.fst
        = done.map Prod.fst ++ (queue.lane uri).map Job.ticket := by
    rw [history.arrived, List.map_append, List.map_map, List.map_map]
    rfl
  rw [tickets] at arrives distinct
  have apart := (List.nodup_append.mp distinct).2.2
  rw [HasSettled, history.settled, List.map_map]
  constructor
  · intro unsettled
    exact List.mem_map.mp ((List.mem_append.mp arrives).resolve_left unsettled)
  · rintro ⟨job, member, rfl⟩ settled
    exact apart _ settled _ (List.mem_map_of_mem member) rfl

/-- A job of a lane has not settled. -/
theorem unsettled (ledger : Ledger turns queue marks) {uri : String} {job : Job α σ β}
    (member : job ∈ queue.lane uri)
    : ¬ HasSettled uri job.ticket marks :=
  (ledger.unsettled_iff (List.mem_map_of_mem (ledger.arrives member))).mpr ⟨job, member, rfl⟩

/-- A job is in progress exactly if it runs. -/
theorem inProgress_iff (ledger : Ledger turns queue marks) {uri : String} {ticket : Nat}
    : InProgress uri ticket marks ↔ ∃ job ∈ queue.running uri, job.ticket = ticket := by
  obtain ⟨done, history⟩ := ledger.histories uri
  constructor
  · rintro ⟨hasStarted, unsettled⟩
    obtain ⟨started, member, rfl⟩ := List.mem_map.mp hasStarted
    rw [history.started] at member
    rcases List.mem_append.mp member with inDone | runs
    · obtain ⟨one, present, rfl⟩ := List.mem_map.mp inDone
      refine absurd ?_ unsettled
      rw [HasSettled, history.settled, List.map_map]
      exact List.mem_map.mpr ⟨one, present, rfl⟩
    · obtain ⟨job, present, rfl⟩ := List.mem_map.mp runs
      exact ⟨job, present, rfl⟩
  · rintro ⟨job, member, rfl⟩
    have inLane : job ∈ queue.lane uri := List.mem_of_mem_filter member
    refine ⟨?_, ?_⟩
    · rw [history.started, List.map_append]
      exact List.mem_append_right _ (List.mem_map_of_mem (List.mem_map_of_mem member))
    · exact ledger.unsettled inLane

/-- A job has started exactly if it runs or has settled. -/
theorem mem_starts_iff (ledger : Ledger turns queue marks) {uri : String} {ticket : Nat}
    : ticket ∈ (starts uri marks).map Prod.fst
      ↔ HasSettled uri ticket marks ∨ ∃ job ∈ queue.running uri, job.ticket = ticket := by
  rw [← ledger.inProgress_iff, InProgress]
  constructor
  · intro started
    by_cases settled : HasSettled uri ticket marks
    · exact .inl settled
    · exact .inr ⟨started, settled⟩
  · rintro (settled | ⟨started, _⟩)
    · obtain ⟨done, history⟩ := ledger.histories uri
      rw [HasSettled, history.settled, List.map_map] at settled
      rw [history.started, List.map_append, List.map_map]
      exact List.mem_append_left _ settled
    · exact started

/-- A job may start exactly if it has not, and all that arrived before it for its document have
settled. Other documents have no say in it.
-/
theorem can_start_iff (ledger : Ledger turns queue marks) {uri : String} {ticket : Nat}
    (arrives : ticket ∈ (arrivals uri turns).map Prod.fst) (state : σ)
    : (queue.step? (.start ticket state)).isSome = true
      ↔ ticket ∉ (starts uri marks).map Prod.fst
        ∧ ∀ earlier ∈ arrivals uri turns, earlier.1 < ticket → HasSettled uri earlier.1 marks := by
  have ascending : (queue.lane uri).Pairwise fun a b => a.ticket < b.ticket :=
    ledger.orderly.ascending.filter _
  rw [ledger.orderly.can_start_iff, ledger.mem_starts_iff]
  constructor
  · rintro ⟨job, member, rfl, waiting, free⟩
    have inLane : job ∈ queue.lane job.uri :=
      mem_lane.mpr ⟨member, rfl, by simp [waiting, Stage.isOver]⟩
    obtain rfl := ledger.uri_of_ticket inLane arrives
    obtain ⟨rest, head⟩ := ledger.orderly.head_of_free member waiting free
    refine ⟨?_, fun earlier early less => ?_⟩
    · rintro (settled | ⟨other, runs, _⟩)
      · exact ledger.unsettled inLane settled
      · have nobody := ledger.orderly.running_eq head
        simp [nobody, waiting, Stage.isRunning] at runs
    · -- An earlier job that has not settled would be in the lane before its head.
      by_contra unsettled
      obtain ⟨other, present, same⟩ :=
        (ledger.unsettled_iff (List.mem_map_of_mem early)).mp unsettled
      rw [head] at present ascending
      rcases List.mem_cons.mp present with rfl | behind
      · omega
      · have later := (List.pairwise_cons.mp ascending).1 other behind
        omega
  · rintro ⟨notStarted, settled⟩
    obtain ⟨job, inLane, rfl⟩ :=
      (ledger.unsettled_iff arrives).mp fun isSettled => notStarted (.inl isSettled)
    obtain ⟨member, rfl, unfinished⟩ := mem_lane.mp inLane
    cases lane : queue.lane job.uri with
    | nil => simp [lane] at inLane
    | cons first rest =>
        have firstIn : first ∈ queue.lane job.uri := lane ▸ List.mem_cons_self
        rw [lane] at inLane ascending
        rcases List.mem_cons.mp inLane with rfl | behind
        · refine ⟨job, member, rfl, ?_, ledger.orderly.headFree job.uri job (by rw [lane]; rfl)⟩
          cases stage : job.stage with
          | waiting => rfl
          | running state =>
              refine absurd (.inr ⟨job, List.mem_filter.mpr ⟨firstIn, ?_⟩, rfl⟩) notStarted
              simp [stage, Stage.isRunning]
          | ended outcome => simp [stage, Stage.isOver] at unfinished
        · have less := (List.pairwise_cons.mp ascending).1 job behind
          exact absurd (settled _ (ledger.arrives firstIn) less) (ledger.unsettled firstIn)

/-- A job may settle exactly while it is in progress. -/
theorem can_settle_iff (ledger : Ledger turns queue marks) {uri : String} {ticket : Nat}
    (arrives : ticket ∈ (arrivals uri turns).map Prod.fst) (outcome : β)
    : (queue.step? (.settle ticket outcome)).isSome = true ↔ InProgress uri ticket marks := by
  rw [ledger.orderly.can_settle_iff, ledger.inProgress_iff]
  constructor
  · rintro ⟨job, member, rfl, runs⟩
    obtain ⟨state, running⟩ := eq_running.mp runs
    have inLane : job ∈ queue.lane job.uri :=
      mem_lane.mpr ⟨member, rfl, by simp [running, Stage.isOver]⟩
    obtain rfl := ledger.uri_of_ticket inLane arrives
    exact ⟨job, List.mem_filter.mpr ⟨inLane, runs⟩, rfl⟩
  · rintro ⟨job, member, rfl⟩
    obtain ⟨inLane, runs⟩ := List.mem_filter.mp member
    exact ⟨job, (mem_lane.mp inLane).1, rfl, runs⟩

/-- Jobs settle once, as they arrive once. -/
theorem settlements_nodup (ledger : Ledger turns queue marks) (uri : String)
    : ((settlements uri marks).map Prod.fst).Nodup := by
  obtain ⟨done, history⟩ := ledger.histories uri
  have distinct := arrivals_nodup uri turns
  rw [history.arrived, List.map_append, List.map_map] at distinct
  rw [history.settled, List.map_map]
  exact (List.nodup_append.mp distinct).1

/-- What settles has arrived. -/
theorem arrives_of_settled (ledger : Ledger turns queue marks) {uri : String} {ticket : Nat}
    (settled : HasSettled uri ticket marks)
    : ticket ∈ (arrivals uri turns).map Prod.fst := by
  obtain ⟨done, history⟩ := ledger.histories uri
  rw [HasSettled, history.settled, List.map_map] at settled
  rw [history.arrived, List.map_append, List.map_map]
  exact List.mem_append_left _ settled

/-- A settlement is returned or owed, and not both. -/
theorem returned_or_owed (ledger : Ledger turns queue marks) (uri : String)
    : ((returns uri marks).map Prod.fst ++ (queue.owed uri).map Prod.fst).Nodup
      ∧ ∀ settled,
          settled ∈ settlements uri marks
          ↔ settled ∈ returns uri marks ∨ settled ∈ queue.owed uri := by
  have accounts := ledger.owed uri
  refine ⟨?_, fun settled => ?_⟩
  · rw [← List.map_append]
    exact (accounts.map Prod.fst).nodup_iff.mpr (ledger.settlements_nodup uri)
  · rw [← accounts.mem_iff, List.mem_append]

/-- A job may leave exactly if it has settled and its caller has nothing yet. -/
theorem can_leave_iff (ledger : Ledger turns queue marks) {uri : String} {ticket : Nat}
    (arrives : ticket ∈ (arrivals uri turns).map Prod.fst)
    : (queue.step? (.leave ticket)).isSome = true
      ↔ HasSettled uri ticket marks ∧ ticket ∉ (returns uri marks).map Prod.fst := by
  obtain ⟨distinct, accounts⟩ := ledger.returned_or_owed uri
  have apart := (List.nodup_append.mp distinct).2.2
  rw [ledger.orderly.can_leave_iff]
  constructor
  · rintro ⟨job, member, rfl, outcome, ended⟩
    have owes : (job.ticket, outcome) ∈ queue.owed job.uri :=
      mem_owed.mpr ⟨job, member, rfl, rfl, ended⟩
    have settled := ((ledger.returned_or_owed job.uri).2 _).mpr (.inr owes)
    have hasSettled : HasSettled job.uri job.ticket marks := List.mem_map_of_mem settled
    obtain rfl := uri_of_arrivals arrives (ledger.arrives_of_settled hasSettled)
    exact ⟨hasSettled, fun returned => apart _ returned _ (List.mem_map_of_mem owes) rfl⟩
  · rintro ⟨hasSettled, unreturned⟩
    obtain ⟨⟨_, outcome⟩, settled, rfl⟩ := List.mem_map.mp hasSettled
    rcases (accounts _).mp settled with returned | owes
    · exact absurd (List.mem_map_of_mem returned) unreturned
    · obtain ⟨job, member, same, _, ended⟩ := mem_owed.mp owes
      exact ⟨job, member, same, outcome, ended⟩

/-- When no job can leave, the documents with a tail are those with a job that has not settled. -/
theorem pending_iff (ledger : Ledger turns queue marks)
    (rest : ∀ ticket, queue.step? (.leave ticket) = none) {uri : String}
    : uri ∈ queue.pending ↔ ∃ job ∈ arrivals uri turns, ¬ HasSettled uri job.1 marks := by
  rw [pending, ByUri.mem_uris]
  constructor
  · rintro ⟨ticket, tail⟩
    obtain ⟨job, member, rfl, rfl⟩ := ledger.orderly.tailKnown uri ticket tail
    have unfinished : job.stage.isOver = false := by
      cases stage : job.stage with
      | waiting | running _ => rfl
      | ended outcome =>
          have can := ledger.orderly.can_leave_iff.mpr ⟨job, member, rfl, outcome, stage⟩
          simp [rest] at can
    have inLane : job ∈ queue.lane job.uri := mem_lane.mpr ⟨member, rfl, unfinished⟩
    exact ⟨entry job, ledger.arrives inLane, ledger.unsettled inLane⟩
  · rintro ⟨job, arrives, unsettled⟩
    obtain ⟨waiting, member, _⟩ :=
      (ledger.unsettled_iff (List.mem_map_of_mem arrives)).mp unsettled
    cases last : (queue.lane uri).getLast? with
    | none => simp [List.getLast?_eq_none_iff.mp last] at member
    | some tail => exact ⟨tail.ticket, ledger.orderly.tailLast uri tail last⟩

end Ledger

-----------------------------------------------------------------------------------------
-- The discipline
-----------------------------------------------------------------------------------------

/-- What callers can rely on after some turns.

Of each document at most one job is in progress; jobs start in the order of their arrival, and each
of them when all earlier ones have settled. A caller gets what its own job was settled with, once,
and has got it when no job can leave any more. What a job can do next depends on the jobs of its own
document only. When no job can leave, exactly the documents with a job that has not settled have a
tail.
-/
structure Disciplined (turns : List (Turn α σ β)) (queue : Queue α σ β)
    (marks : List (Mark α β))
    : Prop where
  single
    : ∀ uri first second, InProgress uri first marks → InProgress uri second marks → first = second
  inOrder : ∀ uri, starts uri marks <+: arrivals uri turns
  inTurn : InTurn turns marks
  own
    : ∀ uri ticket outcome,
        (ticket, outcome) ∈ returns uri marks
        → ticket ∈ (arrivals uri turns).map Prod.fst
          ∧ ∀ other, .settle ticket other ∈ turns ↔ other = outcome
  once : ∀ uri, ((returns uri marks).map Prod.fst).Nodup
  delivered
    : (∀ ticket, queue.step? (.leave ticket) = none)
      → ∀ uri,
          ∀ job ∈ arrivals uri turns,
            ∀ outcome, .settle job.1 outcome ∈ turns → (job.1, outcome) ∈ returns uri marks
  canStart
    : ∀ uri,
        ∀ job ∈ arrivals uri turns,
          ∀ state,
            (queue.step? (.start job.1 state)).isSome = true
            ↔ job.1 ∉ (starts uri marks).map Prod.fst
              ∧ ∀ earlier ∈ arrivals uri turns,
                  earlier.1 < job.1 → HasSettled uri earlier.1 marks
  canSettle
    : ∀ uri,
        ∀ job ∈ arrivals uri turns,
          ∀ outcome,
            (queue.step? (.settle job.1 outcome)).isSome = true ↔ InProgress uri job.1 marks
  canLeave
    : ∀ uri,
        ∀ job ∈ arrivals uri turns,
          (queue.step? (.leave job.1)).isSome = true
          ↔ HasSettled uri job.1 marks ∧ job.1 ∉ (returns uri marks).map Prod.fst
  pending
    : (∀ ticket, queue.step? (.leave ticket) = none)
      → ∀ uri,
          uri ∈ queue.pending ↔ ∃ job ∈ arrivals uri turns, ¬ HasSettled uri job.1 marks

namespace Ledger

/-- At most one job of a document is in progress, since only the head of its lane runs. -/
theorem single (ledger : Ledger turns queue marks) {uri : String} {first second : Nat}
    (one : InProgress uri first marks) (other : InProgress uri second marks)
    : first = second := by
  obtain ⟨job, runs, rfl⟩ := ledger.inProgress_iff.mp one
  obtain ⟨again, also, rfl⟩ := ledger.inProgress_iff.mp other
  cases lane : queue.lane uri with
  | nil => simp [running, lane] at runs
  | cons head rest =>
      have alone := ledger.orderly.running_eq lane
      split at alone
      · rw [alone, List.mem_singleton] at runs also
        rw [runs, also]
      · simp [alone] at runs

/-- Jobs start in the order of their arrival, since only the head of the rest may. -/
theorem inOrder (ledger : Ledger turns queue marks) (uri : String)
    : starts uri marks <+: arrivals uri turns := by
  obtain ⟨done, history⟩ := ledger.histories uri
  rw [history.started, history.arrived, List.prefix_append_right_inj]
  refine List.IsPrefix.map entry ?_
  cases lane : queue.lane uri with
  | nil => simp [running, lane]
  | cons head rest =>
      rw [ledger.orderly.running_eq lane]
      split
      · exact ⟨rest, rfl⟩
      · exact List.nil_prefix

/-- A job settles with one outcome, which it is seen to settle with. -/
theorem settle_unique (ledger : Ledger turns queue marks) {uri : String} {ticket : Nat}
    {outcome : β} (settled : (ticket, outcome) ∈ settlements uri marks) (other : β)
    : .settle ticket other ∈ turns ↔ other = outcome := by
  rw [ledger.settled]
  constructor
  · rintro ⟨elsewhere, also⟩
    have here := ledger.arrives_of_settled (List.mem_map_of_mem settled)
    have there := ledger.arrives_of_settled (List.mem_map_of_mem also)
    obtain rfl := uri_of_arrivals here there
    have same := List.inj_on_of_nodup_map (ledger.settlements_nodup elsewhere) also settled rfl
    exact (Prod.mk.inj same).2
  · rintro rfl
    exact ⟨uri, settled⟩

/-- A ledger shows the discipline. -/
theorem disciplined (ledger : Ledger turns queue marks) : Disciplined turns queue marks where
  single := fun _ _ _ => ledger.single
  inOrder := ledger.inOrder
  inTurn := ledger.inTurn
  own := by
    intro uri ticket outcome returned
    have settled := ((ledger.returned_or_owed uri).2 _).mpr (.inl returned)
    exact ⟨ledger.arrives_of_settled (List.mem_map_of_mem settled), ledger.settle_unique settled⟩
  once := fun uri => (List.nodup_append.mp (ledger.returned_or_owed uri).1).1
  delivered := by
    intro rest uri job arrives outcome settles
    obtain ⟨other, settled⟩ := (ledger.settled _ _).mp settles
    have there := ledger.arrives_of_settled (List.mem_map_of_mem settled)
    obtain rfl := uri_of_arrivals (List.mem_map_of_mem arrives) there
    rcases ((ledger.returned_or_owed other).2 _).mp settled with returned | owes
    · exact returned
    · obtain ⟨last, member, same, _, ended⟩ := mem_owed.mp owes
      have can := ledger.orderly.can_leave_iff.mpr ⟨last, member, same, outcome, ended⟩
      simp [rest] at can
  canStart := fun _ _ arrives => ledger.can_start_iff (List.mem_map_of_mem arrives)
  canSettle := fun _ _ arrives => ledger.can_settle_iff (List.mem_map_of_mem arrives)
  canLeave := fun _ _ arrives => ledger.can_leave_iff (List.mem_map_of_mem arrives)
  pending := fun rest _ => ledger.pending_iff rest

end Ledger

/-- Every run of a queue keeps the discipline: whatever arrives for whatever documents, and in
whatever order jobs start, settle well or badly, and leave.
-/
theorem run_disciplined (ran : (Queue.empty : Queue α σ β).run turns = some (queue, marks))
    : Disciplined turns queue marks :=
  (Ledger.initial.run ran).disciplined

/-- The first job of a document fails while another one waits behind it. A job of another document
is done meanwhile.
-/
def failing : List (Turn String Unit (Except String Nat)) :=
  [.arrive "main.cpp" "first", .arrive "main.cpp" "second", .arrive "other.cpp" "only",
    .start 0 (), .start 2 (), .settle 2 (.ok 7), .leave 2, .settle 0 (.error "failed"),
    .arrive "main.cpp" "third", .leave 0, .start 1 ()]

/-- The failure goes to its own caller, and the second job is in its turn. -/
theorem run_disciplined_failing
    : ∃ queue marks,
        (Queue.empty : Queue String Unit (Except String Nat)).run failing = some (queue, marks)
        ∧ Disciplined failing queue marks
        ∧ returns "main.cpp" marks = [(0, .error "failed")]
        ∧ queue.pending = ["main.cpp"] :=
  ⟨_, _, rfl, run_disciplined rfl, rfl, rfl⟩

end Highlighter.Queue
