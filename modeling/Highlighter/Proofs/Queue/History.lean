import Highlighter.Proofs.Queue.Discipline
import Highlighter.Queue.Run
import Mathlib.Data.List.Basic

/-! What a run of a queue leaves behind. The arrivals for a document are the jobs that have settled
and then its lane; of the lane only the head may have started. What has settled and not been
returned is with the jobs that are over.
-/

namespace Highlighter

/-- A document has a value exactly if it is listed. -/
theorem ByUri.mem_uris {α : Type} {values : ByUri α} {uri : String}
    : uri ∈ values.uris ↔ ∃ value, values.get? uri = some value := by
  rw [← Option.isSome_iff_exists, get?, Option.isSome_map, List.find?_isSome]
  simp [uris]

namespace Queue

variable {α σ β : Type} {queue : Queue α σ β} {turns : List (Turn α σ β)}
  {marks : List (Mark α β)}

-----------------------------------------------------------------------------------------
-- Turns one by one
-----------------------------------------------------------------------------------------

/-- The turns of a queue as a relation, one case for each kind. -/
inductive Steps (queue : Queue α σ β) : Turn α σ β → Queue α σ β × List (Mark α β) → Prop
  | arrive (uri : String) (task : α)
    : Steps queue (.arrive uri task) (queue.arrive uri task, [])
  | start {job} (member : job ∈ queue.jobs) (waiting : job.stage = .waiting)
    (free : queue.free job = true) (state : σ)
    : Steps queue (.start job.ticket state)
        (queue.advance job.ticket (.running state), [.started job.uri job.ticket job.task])
  | proceed {job before} (member : job ∈ queue.jobs) (running : job.stage = .running before)
    (state : σ)
    : Steps queue (.proceed job.ticket state) (queue.advance job.ticket (.running state), [])
  | settle {job state} (member : job ∈ queue.jobs) (running : job.stage = .running state)
    (outcome : β)
    : Steps queue (.settle job.ticket outcome)
        (queue.advance job.ticket (.ended outcome), [.settled job.uri job.ticket outcome])
  | leave {job outcome} (member : job ∈ queue.jobs) (ended : job.stage = .ended outcome)
    : Steps queue (.leave job.ticket)
        (queue.leave job, [.returned job.uri job.ticket outcome])

theorem eq_waiting {stage : Stage σ β} : stage.isWaiting = true ↔ stage = .waiting := by
  cases stage <;> simp [Stage.isWaiting]

theorem eq_running {stage : Stage σ β}
    : stage.isRunning = true ↔ ∃ state, stage = .running state := by
  cases stage <;> simp [Stage.isRunning]

/-- Every turn is one of these, by inversion of the turn and of the stage of its job. -/
theorem step?_steps {turn : Turn α σ β} {result : Queue α σ β × List (Mark α β)}
    (stepped : queue.step? turn = some result)
    : queue.Steps turn result := by
  cases turn with
  | arrive uri task =>
      rw [← Option.some.inj stepped]
      exact .arrive uri task
  | start ticket state =>
      obtain ⟨job, found, started⟩ := Option.bind_eq_some_iff.mp stepped
      obtain ⟨may, same⟩ := Option.ite_none_right_eq_some.mp started
      obtain ⟨waiting, free⟩ := Bool.and_eq_true_iff.mp may
      rw [← Option.some.inj same, ← ticket_of_job? found]
      exact .start (mem_of_job? found) (eq_waiting.mp waiting) free state
  | proceed ticket state =>
      obtain ⟨job, found, proceeded⟩ := Option.bind_eq_some_iff.mp stepped
      obtain ⟨runs, same⟩ := Option.ite_none_right_eq_some.mp proceeded
      obtain ⟨before, running⟩ := eq_running.mp runs
      rw [← Option.some.inj same, ← ticket_of_job? found]
      exact .proceed (mem_of_job? found) running state
  | settle ticket outcome =>
      obtain ⟨job, found, settled⟩ := Option.bind_eq_some_iff.mp stepped
      obtain ⟨runs, same⟩ := Option.ite_none_right_eq_some.mp settled
      obtain ⟨state, running⟩ := eq_running.mp runs
      rw [← Option.some.inj same, ← ticket_of_job? found]
      exact .settle (mem_of_job? found) running outcome
  | leave ticket =>
      obtain ⟨job, found, left⟩ := Option.bind_eq_some_iff.mp stepped
      unfold leave? at left
      split at left
      next outcome ended =>
        rw [← Option.some.inj left, ← ticket_of_job? found]
        exact .leave (mem_of_job? found) ended
      next => contradiction

/-- A run begins with a turn and goes on from there. -/
theorem exists_of_run_cons {turn : Turn α σ β} {result : Queue α σ β × List (Mark α β)}
    (ran : queue.run (turn :: turns) = some result)
    : ∃ next marks last others,
        queue.step? turn = some (next, marks)
        ∧ next.run turns = some (last, others)
        ∧ result = (last, marks ++ others) := by
  obtain ⟨⟨next, marks⟩, stepped, continued⟩ := Option.bind_eq_some_iff.mp ran
  obtain ⟨⟨last, others⟩, ran', same⟩ := Option.bind_eq_some_iff.mp continued
  exact ⟨next, marks, last, others, stepped, ran', (Option.some.inj same).symm⟩

/-- Every turn keeps the order, since only the head of a lane advances. -/
theorem Orderly.step (orderly : queue.Orderly) {turn : Turn α σ β}
    {result : Queue α σ β × List (Mark α β)} (steps : queue.Steps turn result)
    : result.1.Orderly := by
  cases steps with
  | arrive uri task => exact orderly.arrive uri task
  | start member waiting free state =>
      obtain ⟨rest, head⟩ := orderly.head_of_free member waiting free
      exact orderly.advance member head _
  | proceed member running state =>
      obtain ⟨rest, head⟩ := orderly.head_of_running member running
      exact orderly.advance member head _
  | settle member running outcome =>
      obtain ⟨rest, head⟩ := orderly.head_of_running member running
      exact orderly.advance member head _
  | leave member ended => exact orderly.leave member (by simp [ended, Stage.isOver])

-----------------------------------------------------------------------------------------
-- Arrivals
-----------------------------------------------------------------------------------------

/-- A ticket is the index of its arrival among all arrivals. -/
theorem mem_arrivals {uri : String} {ticket : Nat} {task : α}
    : (ticket, task) ∈ arrivals uri turns ↔ (arrived turns)[ticket]? = some (uri, task) := by
  rw [← List.mk_mem_zipIdx_iff_getElem?]
  constructor
  · intro member
    obtain ⟨⟨⟨other, found⟩, index⟩, present, picked⟩ := List.mem_filterMap.mp member
    obtain ⟨rfl, same⟩ := Option.ite_none_right_eq_some.mp picked
    obtain ⟨rfl, rfl⟩ := Prod.mk.inj (Option.some.inj same)
    exact present
  · intro present
    exact List.mem_filterMap.mpr ⟨_, present, if_pos rfl⟩

/-- Tickets ascend with the arrivals for a document. -/
theorem arrivals_ascending (uri : String) (turns : List (Turn α σ β))
    : (arrivals uri turns).Pairwise fun a b => a.1 < b.1 := by
  have indices : ((arrived turns).zipIdx).Pairwise fun a b => a.2 < b.2 := by
    rw [← List.pairwise_map, List.zipIdx_map_snd]
    exact List.pairwise_lt_range'
  refine List.pairwise_filterMap.mpr (indices.imp fun {a b} less first isFirst second isSecond => ?_)
  have one := (Option.ite_none_right_eq_some.mp isFirst).2
  have other := (Option.ite_none_right_eq_some.mp isSecond).2
  rw [← Option.some.inj one, ← Option.some.inj other]
  exact less

/-- No ticket arrives twice. -/
theorem arrivals_nodup (uri : String) (turns : List (Turn α σ β))
    : ((arrivals uri turns).map Prod.fst).Nodup :=
  List.pairwise_map.mpr ((arrivals_ascending uri turns).imp Nat.ne_of_lt)

/-- A ticket is that of one document. -/
theorem uri_of_arrivals {uri other : String} {ticket : Nat}
    (here : ticket ∈ (arrivals uri turns).map Prod.fst)
    (there : ticket ∈ (arrivals other turns).map Prod.fst)
    : other = uri := by
  obtain ⟨⟨_, task⟩, first, rfl⟩ := List.mem_map.mp here
  obtain ⟨⟨_, again⟩, second, same⟩ := List.mem_map.mp there
  simp only at same
  subst same
  have equal := (mem_arrivals.mp second).symm.trans (mem_arrivals.mp first)
  exact (Prod.mk.inj (Option.some.inj equal)).1

theorem arrived_append (turns : List (Turn α σ β)) (turn : Turn α σ β)
    : arrived (turns ++ [turn]) = arrived turns ++ turn.arrival?.toList := by
  rw [arrived, List.filterMap_append]
  cases arrival : turn.arrival? <;> simp [arrived, arrival]

/-- An arrival is the last one for its document. -/
theorem arrivals_arrive (uri other : String) (turns : List (Turn α σ β)) (task : α)
    : arrivals uri (turns ++ [.arrive other task])
      = arrivals uri turns
        ++ if other = uri then [((arrived turns).length, task)] else [] := by
  simp only [arrivals, arrived_append, Turn.arrival?, Option.toList_some, List.zipIdx_append,
    List.filterMap_append]
  by_cases same : other = uri <;> simp [same]

theorem arrivals_quiet (uri : String) (turns : List (Turn α σ β)) {turn : Turn α σ β}
    (quiet : turn.arrival? = none)
    : arrivals uri (turns ++ [turn]) = arrivals uri turns := by
  rw [arrivals, arrived_append, quiet, Option.toList_none, List.append_nil, arrivals]

-----------------------------------------------------------------------------------------
-- The history of a document
-----------------------------------------------------------------------------------------

/-- The ticket and the task of a job. -/
def entry (job : Job α σ β) : Nat × α := (job.ticket, job.task)

/-- The jobs of a document that run. -/
def running (queue : Queue α σ β) (uri : String) : List (Job α σ β) :=
  (queue.lane uri).filter fun job => job.stage.isRunning

/-- Some jobs of a document are done, each a ticket with its task and its outcome. They arrived
before those of its lane, started before those that run, and are all that have settled.
-/
structure History (uri : String) (turns : List (Turn α σ β)) (queue : Queue α σ β)
    (marks : List (Mark α β)) (done : List (Nat × α × β))
    : Prop where
  arrived
    : arrivals uri turns
      = done.map (fun job => (job.1, job.2.1)) ++ (queue.lane uri).map entry
  started
    : starts uri marks
      = done.map (fun job => (job.1, job.2.1)) ++ (queue.running uri).map entry
  settled : settlements uri marks = done.map fun job => (job.1, job.2.2)

/-- Behind the head of a lane every job waits, by induction over the links. -/
theorem waits_of_linked {job : Job α σ β} {rest : List (Job α σ β)}
    (linked
      : (job :: rest).IsChain fun a b => b.after = some a.ticket ∧ b.stage.isWaiting = true)
    : ∀ other ∈ rest, other.stage.isWaiting = true := by
  induction rest generalizing job with
  | nil => simp
  | cons next rest ih =>
      obtain ⟨here, later⟩ := List.isChain_cons_cons.mp linked
      exact List.forall_mem_cons.mpr ⟨here.2, ih later⟩

/-- No job runs but the head of its lane. -/
theorem Orderly.running_eq (orderly : queue.Orderly) {uri : String} {job : Job α σ β}
    {rest : List (Job α σ β)} (head : queue.lane uri = job :: rest)
    : queue.running uri = if job.stage.isRunning then [job] else [] := by
  have linked := orderly.linked uri
  rw [head] at linked
  have nobody : rest.filter (fun other => other.stage.isRunning) = [] := by
    refine List.filter_eq_nil_iff.mpr fun other member => ?_
    rw [eq_waiting.mp (waits_of_linked linked other member)]
    simp [Stage.isRunning]
  rw [running, head, List.filter_cons, nobody]

namespace History

variable {uri : String} {done : List (Nat × α × β)}

theorem initial (uri : String) : History uri [] (.empty : Queue α σ β) [] [] := by
  constructor <;> rfl

/-- A turn that does not concern the lane of a document leaves its history as it is. -/
theorem keep (history : History uri turns queue marks done) {turn : Turn α σ β}
    {later : Queue α σ β} {new : List (Mark α β)} (quiet : turn.arrival? = none)
    (lane : (later.lane uri).map entry = (queue.lane uri).map entry)
    (run : (later.running uri).map entry = (queue.running uri).map entry)
    (noStart : starts uri new = []) (noSettlement : settlements uri new = [])
    : History uri (turns ++ [turn]) later (marks ++ new) done := by
  obtain ⟨arrived, started, settled⟩ := history
  rw [starts] at started noStart
  rw [settlements] at settled noSettlement
  constructor
  · rw [arrivals_quiet uri turns quiet, arrived, lane]
  · rw [starts, List.filterMap_append, noStart, List.append_nil, started, run]
  · rw [settlements, List.filterMap_append, noSettlement, List.append_nil, settled]

/-- Another document's job advances. -/
theorem advance_other (history : History uri turns queue marks done) (orderly : queue.Orderly)
    {job : Job α σ β} (member : job ∈ queue.jobs) {rest : List (Job α σ β)}
    (head : queue.lane job.uri = job :: rest) (different : uri ≠ job.uri) {turn : Turn α σ β}
    (quiet : turn.arrival? = none) (stage : Stage σ β) {new : List (Mark α β)}
    (noStart : starts uri new = []) (noSettlement : settlements uri new = [])
    : History uri (turns ++ [turn]) (queue.advance job.ticket stage) (marks ++ new) done := by
  have lane : (queue.advance job.ticket stage).lane uri = queue.lane uri := by
    rw [orderly.lane_advance member head, if_neg different]
  refine history.keep quiet ?_ ?_ noStart noSettlement
  · rw [lane]
  · rw [running, lane, running]

/-- A job that arrives is the last of its lane and does not run. -/
theorem arrive (history : History uri turns queue marks done)
    (counted : queue.next = (Queue.arrived turns).length) (other : String) (task : α)
    : History uri (turns ++ [.arrive other task]) (queue.arrive other task) marks done := by
  obtain ⟨arrived, started, settled⟩ := history
  by_cases same : uri = other
  · subst same
    have lane : (queue.arrive uri task).lane uri = queue.lane uri ++ [queue.newcomer uri task] := by
      rw [lane_arrive, if_pos rfl]
    refine ⟨?_, ?_, settled⟩
    · rw [arrivals_arrive, if_pos rfl, arrived, lane, List.map_append, List.append_assoc, ← counted]
      rfl
    · rw [running, lane, List.filter_append, started, running]
      simp [newcomer, Stage.isRunning]
  · have lane : (queue.arrive other task).lane uri = queue.lane uri := by
      rw [lane_arrive, if_neg same]
    refine ⟨?_, ?_, settled⟩
    · rw [arrivals_arrive, if_neg (Ne.symm same), List.append_nil, arrived, lane]
    · rw [started, running, running, lane]

/-- The head of a lane starts, none having run before. -/
theorem start (history : History uri turns queue marks done) (orderly : queue.Orderly)
    {job : Job α σ β} (member : job ∈ queue.jobs) (waiting : job.stage = .waiting)
    {rest : List (Job α σ β)} (head : queue.lane job.uri = job :: rest) (state : σ)
    : History uri (turns ++ [.start job.ticket state])
        (queue.advance job.ticket (.running state))
        (marks ++ [.started job.uri job.ticket job.task]) done := by
  by_cases same : uri = job.uri
  · subst same
    have lane := orderly.lane_advance member head (.running state) job.uri
    simp only [if_true, Stage.isOver, Bool.false_eq_true, if_false] at lane
    have before := orderly.running_eq head
    have after := (orderly.advance member head (.running state)).running_eq lane
    simp only [waiting, Stage.isRunning, Bool.false_eq_true, if_false, if_true] at before after
    obtain ⟨arrived, started, settled⟩ := history
    rw [before, List.map_nil, List.append_nil] at started
    constructor
    · rw [arrivals_quiet _ _ rfl, arrived, head, lane]
      rfl
    · rw [starts, List.filterMap_append, ← starts, started, after]
      simp [Mark.start?, entry]
    · rw [settlements, List.filterMap_append, ← settlements, settled]
      simp [Mark.settlement?]
  · refine history.advance_other orderly member head same rfl _ ?_ ?_
    · simp [starts, Mark.start?, Ne.symm same]
    · simp [settlements, Mark.settlement?]

/-- A job that runs gets on without a trace. -/
theorem proceed (history : History uri turns queue marks done) (orderly : queue.Orderly)
    {job : Job α σ β} (member : job ∈ queue.jobs) {before : σ}
    (running : job.stage = .running before) {rest : List (Job α σ β)}
    (head : queue.lane job.uri = job :: rest) (state : σ)
    : History uri (turns ++ [.proceed job.ticket state])
        (queue.advance job.ticket (.running state)) (marks ++ []) done := by
  by_cases same : uri = job.uri
  · subst same
    have lane := orderly.lane_advance member head (.running state) job.uri
    simp only [if_true, Stage.isOver, Bool.false_eq_true, if_false] at lane
    have runs := orderly.running_eq head
    have after := (orderly.advance member head (.running state)).running_eq lane
    simp only [running, Stage.isRunning, if_true] at runs after
    refine history.keep rfl ?_ ?_ rfl rfl
    · rw [lane, head]
      rfl
    · rw [after, runs]
      rfl
  · exact history.advance_other orderly member head same rfl _ rfl rfl

/-- A job that settles is done, and the one behind it has not started. -/
theorem settle (history : History uri turns queue marks done) (orderly : queue.Orderly)
    {job : Job α σ β} (member : job ∈ queue.jobs) {state : σ}
    (running : job.stage = .running state) {rest : List (Job α σ β)}
    (head : queue.lane job.uri = job :: rest) (outcome : β)
    : ∃ others,
        History uri (turns ++ [.settle job.ticket outcome])
          (queue.advance job.ticket (.ended outcome))
          (marks ++ [.settled job.uri job.ticket outcome]) (done ++ others) := by
  by_cases same : uri = job.uri
  · subst same
    refine ⟨[(job.ticket, job.task, outcome)], ?_⟩
    have lane := orderly.lane_advance member head (.ended outcome) job.uri
    simp only [if_true, Stage.isOver] at lane
    have before := orderly.running_eq head
    simp only [running, Stage.isRunning, if_true] at before
    have after : (queue.advance job.ticket (.ended outcome)).running job.uri = [] := by
      have linked := orderly.linked job.uri
      rw [head] at linked
      rw [Queue.running, lane]
      refine List.filter_eq_nil_iff.mpr fun other behind => ?_
      rw [eq_waiting.mp (waits_of_linked linked other behind)]
      simp [Stage.isRunning]
    obtain ⟨arrived, started, settled⟩ := history
    constructor
    · rw [arrivals_quiet _ _ rfl, arrived, head, lane, List.map_append, List.append_assoc]
      rfl
    · rw [starts, List.filterMap_append, ← starts, started, before, after]
      simp [Mark.start?, entry]
    · rw [settlements, List.filterMap_append, ← settlements, settled]
      simp [Mark.settlement?]
  · refine ⟨[], ?_⟩
    rw [List.append_nil]
    refine history.advance_other orderly member head same rfl _ ?_ ?_
    · simp [starts, Mark.start?]
    · simp [settlements, Mark.settlement?, Ne.symm same]

/-- A job that leaves was in no lane. -/
theorem leave (history : History uri turns queue marks done) (orderly : queue.Orderly)
    {job : Job α σ β} (member : job ∈ queue.jobs) {outcome : β}
    (ended : job.stage = .ended outcome)
    : History uri (turns ++ [.leave job.ticket]) (queue.leave job)
        (marks ++ [.returned job.uri job.ticket outcome]) done := by
  have lane := orderly.lane_leave member (by simp [ended, Stage.isOver]) uri
  refine history.keep rfl (by rw [lane]) (by rw [running, lane, running]) ?_ ?_
  · simp [starts, Mark.start?]
  · simp [settlements, Mark.settlement?]

/-- Every turn makes history of what was, by cases on the turn. -/
theorem step (history : History uri turns queue marks done) (orderly : queue.Orderly)
    (counted : queue.next = (Queue.arrived turns).length) {turn : Turn α σ β}
    {result : Queue α σ β × List (Mark α β)} (steps : queue.Steps turn result)
    : ∃ done, History uri (turns ++ [turn]) result.1 (marks ++ result.2) done := by
  cases steps with
  | arrive other task =>
      rw [List.append_nil]
      exact ⟨done, history.arrive counted other task⟩
  | start member waiting free state =>
      obtain ⟨rest, head⟩ := orderly.head_of_free member waiting free
      exact ⟨done, history.start orderly member waiting head state⟩
  | proceed member running state =>
      obtain ⟨rest, head⟩ := orderly.head_of_running member running
      exact ⟨done, history.proceed orderly member running head state⟩
  | settle member running outcome =>
      obtain ⟨rest, head⟩ := orderly.head_of_running member running
      obtain ⟨others, settled⟩ := history.settle orderly member running head outcome
      exact ⟨done ++ others, settled⟩
  | leave member ended => exact ⟨done, history.leave orderly member ended⟩

end History

end Queue

end Highlighter
