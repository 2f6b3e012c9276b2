import Highlighter.Queue
import Mathlib.Data.List.Chain
import Mathlib.Data.List.Nodup

/-! The tails make a first-in first-out lane of each document. A lane holds the jobs of a document
that are not over; only its head may start or run, and every other job waits for the one before it.
-/

namespace Highlighter

namespace Queue

variable {α σ β : Type}

/-- A job of a document that is not over. -/
def inLane (uri : String) (job : Job α σ β) : Bool :=
  job.uri = uri && !job.stage.isOver

/-- The jobs of a document that are not over, in the order of their arrival. -/
def lane (queue : Queue α σ β) (uri : String) : List (Job α σ β) :=
  queue.jobs.filter (inLane uri)

/-- Jobs arrive in order and wait for the tail that they find. Tickets ascend; in a lane every job
but the head waits for the one before it, and nothing holds the head back; the last job of a lane
is its tail, and a tail has not left.
-/
structure Orderly (queue : Queue α σ β) : Prop where
  ascending : queue.jobs.Pairwise fun a b => a.ticket < b.ticket
  issued : ∀ job ∈ queue.jobs, job.ticket < queue.next
  backward : ∀ job ∈ queue.jobs, ∀ tail, job.after = some tail → tail < job.ticket
  linked
    : ∀ uri,
        (queue.lane uri).IsChain fun a b =>
          b.after = some a.ticket ∧ b.stage.isWaiting = true
  headFree : ∀ uri, ∀ job ∈ (queue.lane uri).head?, queue.free job = true
  tailLast
    : ∀ uri, ∀ job ∈ (queue.lane uri).getLast?, queue.tails.get? uri = some job.ticket
  tailKnown
    : ∀ uri ticket,
        queue.tails.get? uri = some ticket
        → ∃ job ∈ queue.jobs, job.ticket = ticket ∧ job.uri = uri

-----------------------------------------------------------------------------------------
-- Looking jobs up
-----------------------------------------------------------------------------------------

/-- A job in a lane has not left, is about its document and is not over, by the filter. -/
theorem mem_lane {queue : Queue α σ β} {uri : String} {job : Job α σ β}
    : job ∈ queue.lane uri
      ↔ job ∈ queue.jobs ∧ job.uri = uri ∧ job.stage.isOver = false := by
  simp [lane, inLane]

/-- A ticket leads to a job with that ticket, by the search. -/
theorem ticket_of_job? {queue : Queue α σ β} {ticket : Nat} {job : Job α σ β}
    (found : queue.job? ticket = some job)
    : job.ticket = ticket := by
  simpa using List.find?_some found

/-- A job that a ticket leads to has not left, by the search. -/
theorem mem_of_job? {queue : Queue α σ β} {ticket : Nat} {job : Job α σ β}
    (found : queue.job? ticket = some job)
    : job ∈ queue.jobs :=
  List.mem_of_find?_eq_some found

/-- A ticket is unsettled when some job with it is not over, by the search. -/
theorem unsettled_iff {queue : Queue α σ β} {ticket : Nat}
    : queue.unsettled ticket = true
      ↔ ∃ job ∈ queue.jobs, job.ticket = ticket ∧ job.stage.isOver = false := by
  simp [unsettled]

/-- A ticket names one job only, since tickets ascend. -/
theorem Orderly.eq_of_ticket {queue : Queue α σ β} (orderly : queue.Orderly)
    {job other : Job α σ β} (member : job ∈ queue.jobs) (present : other ∈ queue.jobs)
    (same : job.ticket = other.ticket)
    : job = other := by
  have distinct : (queue.jobs.map Job.ticket).Nodup :=
    List.pairwise_map.mpr (orderly.ascending.imp Nat.ne_of_lt)
  exact List.inj_on_of_nodup_map distinct member present same

/-- Every job that has not left is found by its ticket, which names no other. -/
theorem Orderly.job?_of_mem {queue : Queue α σ β} (orderly : queue.Orderly)
    {job : Job α σ β} (member : job ∈ queue.jobs)
    : queue.job? job.ticket = some job := by
  cases found : queue.job? job.ticket with
  | none => simpa using List.find?_eq_none.mp found job member
  | some other =>
      have same := ticket_of_job? found
      rw [orderly.eq_of_ticket (mem_of_job? found) member same]

/-- A job stands between those with smaller and those with greater tickets. -/
theorem Orderly.split {queue : Queue α σ β} (orderly : queue.Orderly) {job : Job α σ β}
    (member : job ∈ queue.jobs)
    : ∃ front back,
        queue.jobs = front ++ job :: back
        ∧ (∀ other ∈ front, other.ticket ≠ job.ticket)
        ∧ ∀ other ∈ back, other.ticket ≠ job.ticket := by
  obtain ⟨front, back, jobs⟩ := List.append_of_mem member
  have ascending := orderly.ascending
  rw [jobs, List.pairwise_append, List.pairwise_cons] at ascending
  refine ⟨front, back, jobs, ?_, ?_⟩
  · intro other before
    exact Nat.ne_of_lt (ascending.2.2 other before job List.mem_cons_self)
  · intro other after
    exact Nat.ne_of_gt (ascending.2.1.1 other after)

-----------------------------------------------------------------------------------------
-- The head of a lane
-----------------------------------------------------------------------------------------

/-- A job of a lane is its head, or it waits for another job of the lane, by the links. -/
theorem Orderly.head_or_waits {queue : Queue α σ β} (orderly : queue.Orderly)
    {uri : String} {job : Job α σ β} (member : job ∈ queue.lane uri)
    : (∃ rest, queue.lane uri = job :: rest)
      ∨ ∃ earlier ∈ queue.lane uri,
          job.after = some earlier.ticket ∧ job.stage.isWaiting = true := by
  obtain ⟨front, back, lane⟩ := List.append_of_mem member
  have linked := orderly.linked uri
  rw [lane, List.isChain_append] at linked
  cases last : front.getLast? with
  | none =>
      rw [List.getLast?_eq_none_iff.mp last] at lane
      exact Or.inl ⟨back, lane⟩
  | some earlier =>
      have before : earlier ∈ front := List.mem_of_getLast? last
      refine Or.inr ⟨earlier, ?_, linked.2.2 earlier last job rfl⟩
      rw [lane]
      exact List.mem_append_left _ before

/-- The job behind the head of a lane waits, by the links. -/
theorem Orderly.next_waits {queue : Queue α σ β} (orderly : queue.Orderly) {uri : String}
    {job : Job α σ β} {rest : List (Job α σ β)} (head : queue.lane uri = job :: rest)
    {next : Job α σ β} (behind : next ∈ rest.head?)
    : next.stage.isWaiting = true := by
  have linked := orderly.linked uri
  rw [head] at linked
  exact ((List.isChain_cons.mp linked).1 next behind).2

/-- A job that runs is the head of its lane, since the others wait. -/
theorem Orderly.head_of_running {queue : Queue α σ β} (orderly : queue.Orderly)
    {job : Job α σ β} (member : job ∈ queue.jobs) {state : σ}
    (running : job.stage = .running state)
    : ∃ rest, queue.lane job.uri = job :: rest := by
  have present : job ∈ queue.lane job.uri :=
    mem_lane.mpr ⟨member, rfl, by simp [running, Stage.isOver]⟩
  rcases orderly.head_or_waits present with head | ⟨earlier, _, _, waiting⟩
  · exact head
  · simp [running, Stage.isWaiting] at waiting

/-- A job that may start is the head of its lane, since the others are held back. -/
theorem Orderly.head_of_free {queue : Queue α σ β} (orderly : queue.Orderly)
    {job : Job α σ β} (member : job ∈ queue.jobs) (waiting : job.stage = .waiting)
    (free : queue.free job = true)
    : ∃ rest, queue.lane job.uri = job :: rest := by
  have present : job ∈ queue.lane job.uri :=
    mem_lane.mpr ⟨member, rfl, by simp [waiting, Stage.isOver]⟩
  rcases orderly.head_or_waits present with head | ⟨earlier, before, after, _⟩
  · exact head
  · obtain ⟨stays, _, unfinished⟩ := mem_lane.mp before
    have held : queue.unsettled earlier.ticket = true :=
      unsettled_iff.mpr ⟨earlier, stays, rfl, unfinished⟩
    simp [Queue.free, after, held] at free

-----------------------------------------------------------------------------------------
-- What each operation does to the lanes
-----------------------------------------------------------------------------------------

/-- The job that an arrival adds: it waits for the tail that it finds. -/
def newcomer (queue : Queue α σ β) (uri : String) (task : α) : Job α σ β :=
  ⟨queue.next, uri, queue.tails.get? uri, task, .waiting⟩

/-- An arrival joins the end of its lane and no other, by the filter on the appended job. -/
theorem lane_arrive (queue : Queue α σ β) (uri other : String) (task : α)
    : (queue.arrive uri task).lane other
      = if other = uri then queue.lane uri ++ [queue.newcomer uri task]
        else queue.lane other := by
  by_cases same : other = uri
  · subst same
    simp [lane, arrive, newcomer, inLane, Stage.isOver]
  · simp [lane, arrive, inLane, Stage.isOver, same, Ne.symm same]

/-- Advancing changes the stage of one job, which stands where it stood. -/
theorem jobs_advance {queue : Queue α σ β} {job : Job α σ β}
    {front back : List (Job α σ β)} (jobs : queue.jobs = front ++ job :: back)
    (before : ∀ other ∈ front, other.ticket ≠ job.ticket)
    (after : ∀ other ∈ back, other.ticket ≠ job.ticket) (stage : Stage σ β)
    : (queue.advance job.ticket stage).jobs
      = front ++ { job with stage := stage } :: back := by
  have unchanged {part : List (Job α σ β)}
      (apart : ∀ other ∈ part, other.ticket ≠ job.ticket)
      : part.map (fun other =>
          if other.ticket = job.ticket then { other with stage := stage } else other) = part := by
    refine (List.map_congr_left fun other member => ?_).trans (List.map_id part)
    simp [apart other member]
  simp [advance, jobs, unchanged before, unchanged after]

/-- Leaving takes one job away, and the others stand where they stood. -/
theorem jobs_leave {queue : Queue α σ β} {job : Job α σ β}
    {front back : List (Job α σ β)} (jobs : queue.jobs = front ++ job :: back)
    (before : ∀ other ∈ front, other.ticket ≠ job.ticket)
    (after : ∀ other ∈ back, other.ticket ≠ job.ticket)
    : (queue.leave job).jobs = front ++ back := by
  have stays {part : List (Job α σ β)} (apart : ∀ other ∈ part, other.ticket ≠ job.ticket)
      : part.filter (fun other => other.ticket ≠ job.ticket) = part :=
    List.filter_eq_self.mpr fun other member => by simpa using apart other member
  simp only [leave, jobs, List.filter_append, List.filter_cons, stays before, stays after]
  simp

/-- A head that advances stays the head, or goes if it is over; no other lane changes. Witness:
the lane's other jobs stand behind the head, where their tickets keep them from advancing.
-/
theorem Orderly.lane_advance {queue : Queue α σ β} (orderly : queue.Orderly)
    {job : Job α σ β} (member : job ∈ queue.jobs) {rest : List (Job α σ β)}
    (head : queue.lane job.uri = job :: rest) (stage : Stage σ β) (uri : String)
    : (queue.advance job.ticket stage).lane uri
      = if uri = job.uri then
          if stage.isOver then rest else { job with stage := stage } :: rest
        else queue.lane uri := by
  obtain ⟨front, back, jobs, before, after⟩ := orderly.split member
  have advanced := jobs_advance jobs before after stage
  by_cases same : uri = job.uri
  · subst same
    have unfinished := (mem_lane.mp (head ▸ List.mem_cons_self : job ∈ queue.lane job.uri)).2.2
    have split : front.filter (inLane job.uri) ++ job :: back.filter (inLane job.uri)
        = job :: rest := by
      rw [← head, lane, jobs, List.filter_append, List.filter_cons]
      simp [inLane, unfinished]
    have nothing : front.filter (inLane job.uri) = [] := by
      cases earlier : front.filter (inLane job.uri) with
      | nil => rfl
      | cons first _ =>
          rw [earlier] at split
          have first_front : first ∈ front :=
            List.mem_of_mem_filter (earlier ▸ List.mem_cons_self)
          exact absurd (congrArg Job.ticket (List.cons.inj split).1) (before first first_front)
    rw [nothing] at split
    have behind : back.filter (inLane job.uri) = rest := (List.cons.inj split).2
    cases ended : stage.isOver <;>
      simp [lane, advanced, List.filter_append, nothing, behind, inLane, ended]
  · have elsewhere (stage : Stage σ β) : inLane uri { job with stage := stage } = false := by
      simp [inLane, Ne.symm same]
    simp [lane, advanced, jobs, List.filter_append, elsewhere, same]

/-- A job that is over leaves no gap in any lane, since none holds it. -/
theorem Orderly.lane_leave {queue : Queue α σ β} (orderly : queue.Orderly)
    {job : Job α σ β} (member : job ∈ queue.jobs) (ended : job.stage.isOver = true)
    (uri : String)
    : (queue.leave job).lane uri = queue.lane uri := by
  simp only [lane, leave, List.filter_filter]
  refine List.filter_congr fun other present => ?_
  by_cases same : other.ticket = job.ticket
  · have equal := orderly.eq_of_ticket present member same
    simp [equal, inLane, ended]
  · simp [same]

-----------------------------------------------------------------------------------------
-- Every operation keeps the order
-----------------------------------------------------------------------------------------

/-- A queue without jobs is in order, having nothing to compare. -/
theorem Orderly.empty : (Queue.empty : Queue α σ β).Orderly := by
  constructor <;> simp [Queue.empty, lane]

/-- The tail that an arrival finds has a job, which arrived before it and is in its lane unless it
is over.
-/
theorem Orderly.tail_lt {queue : Queue α σ β} (orderly : queue.Orderly) {uri : String}
    {ticket : Nat} (tail : queue.tails.get? uri = some ticket)
    : ticket < queue.next := by
  obtain ⟨job, member, same, _⟩ := orderly.tailKnown uri ticket tail
  exact same ▸ orderly.issued job member

/-- An arrival holds no earlier job back, having a ticket of its own. -/
theorem Orderly.free_arrive {queue : Queue α σ β} (orderly : queue.Orderly) {uri : String}
    {task : α} {job : Job α σ β} (member : job ∈ queue.jobs)
    : (queue.arrive uri task).free job = queue.free job := by
  cases after : job.after with
  | none => simp [free, after]
  | some tail =>
      have earlier := orderly.backward job member tail after
      have issued := orderly.issued job member
      have other : queue.next ≠ tail := by omega
      simp [free, after, unsettled, arrive, other]

/-- An arrival with no lane before it may start: the tail that it finds is over, as otherwise it
would be in that lane.
-/
theorem Orderly.newcomer_free {queue : Queue α σ β} (orderly : queue.Orderly) {uri : String}
    {task : α} (idle : queue.lane uri = [])
    : (queue.arrive uri task).free (queue.newcomer uri task) = true := by
  cases tail : queue.tails.get? uri with
  | none => simp [free, newcomer, tail]
  | some ticket =>
      obtain ⟨job, member, same, about⟩ := orderly.tailKnown uri ticket tail
      have other : queue.next ≠ ticket := (Nat.ne_of_lt (orderly.tail_lt tail)).symm
      have settled : queue.unsettled ticket = false := by
        rw [Bool.eq_false_iff]
        intro held
        obtain ⟨holder, present, ticketed, unfinished⟩ := unsettled_iff.mp held
        have equal := orderly.eq_of_ticket present member (ticketed.trans same.symm)
        have inside : holder ∈ queue.lane uri :=
          mem_lane.mpr ⟨present, equal ▸ about, unfinished⟩
        simp [idle] at inside
      simp only [unsettled] at settled
      simp [free, newcomer, tail, unsettled, arrive, other, settled]

/-- An arrival keeps the order. Witness: in a lane it follows the last job, which is the tail that
it finds, and in an empty lane nothing holds it back.
-/
theorem Orderly.arrive {queue : Queue α σ β} (orderly : queue.Orderly) (uri : String)
    (task : α)
    : (queue.arrive uri task).Orderly where
  ascending := by
    simp only [Queue.arrive, List.pairwise_append, List.pairwise_singleton, true_and]
    refine ⟨orderly.ascending, ?_⟩
    intro job member newest isNewest
    rw [List.mem_singleton.mp isNewest]
    exact orderly.issued job member
  issued := by
    intro job member
    rcases List.mem_append.mp member with earlier | newest
    · exact Nat.lt_succ_of_lt (orderly.issued job earlier)
    · rw [List.mem_singleton.mp newest]
      exact Nat.lt_succ_self _
  backward := by
    intro job member tail after
    rcases List.mem_append.mp member with earlier | newest
    · exact orderly.backward job earlier tail after
    · rw [List.mem_singleton.mp newest] at after ⊢
      exact orderly.tail_lt after
  linked := by
    intro other
    rw [lane_arrive]
    split
    · refine List.isChain_append.mpr ⟨orderly.linked uri, List.isChain_singleton _, ?_⟩
      intro last isLast newest isNewest
      rw [← Option.mem_some_iff.mp isNewest]
      exact ⟨orderly.tailLast uri last isLast, rfl⟩
    · exact orderly.linked other
  headFree := by
    intro other job isHead
    rw [lane_arrive] at isHead
    split at isHead
    next =>
      cases lane : queue.lane uri with
      | nil =>
          rw [lane] at isHead
          rw [← Option.mem_some_iff.mp isHead]
          exact orderly.newcomer_free lane
      | cons first rest =>
          have head : job ∈ (queue.lane uri).head? := by
            rw [lane] at isHead ⊢
            exact isHead
          have member := (mem_lane.mp (List.mem_of_mem_head? head)).1
          exact (orderly.free_arrive member).trans (orderly.headFree uri job head)
    next =>
      have member := (mem_lane.mp (List.mem_of_mem_head? isHead)).1
      exact (orderly.free_arrive member).trans (orderly.headFree other job isHead)
  tailLast := by
    intro other job isLast
    rw [lane_arrive] at isLast
    split at isLast
    next same =>
      rw [List.getLast?_concat] at isLast
      simp [Queue.arrive, same, ← Option.mem_some_iff.mp isLast, newcomer]
    next different =>
      simpa [Queue.arrive, different] using orderly.tailLast other job isLast
  tailKnown := by
    intro other ticket tail
    by_cases same : other = uri
    · refine ⟨queue.newcomer uri task, by simp [Queue.arrive, newcomer], ?_, same.symm⟩
      simpa [Queue.arrive, newcomer, same] using tail
    · obtain ⟨job, member, known⟩ := orderly.tailKnown other ticket
        (by simpa [Queue.arrive, same] using tail)
      exact ⟨job, List.mem_append_left _ member, known⟩

/-- Advancing changes nothing but a stage: each job after it was one before it. -/
theorem mem_advance {queue : Queue α σ β} {ticket : Nat} {stage : Stage σ β}
    {job : Job α σ β} (member : job ∈ (queue.advance ticket stage).jobs)
    : ∃ old ∈ queue.jobs,
        job = if old.ticket = ticket then { old with stage := stage } else old := by
  obtain ⟨old, present, same⟩ := List.mem_map.mp member
  exact ⟨old, present, same.symm⟩

/-- No job becomes unsettled by advancing: the one that does was not over before. -/
theorem unsettled_of_advance {queue : Queue α σ β} {job : Job α σ β}
    (member : job ∈ queue.jobs) (unfinished : job.stage.isOver = false)
    {stage : Stage σ β} {ticket : Nat}
    (held : (queue.advance job.ticket stage).unsettled ticket = true)
    : queue.unsettled ticket = true := by
  obtain ⟨holder, present, ticketed, going⟩ := unsettled_iff.mp held
  obtain ⟨old, kept, rfl⟩ := mem_advance present
  split at ticketed
  next same => exact unsettled_iff.mpr ⟨job, member, same.symm.trans ticketed, unfinished⟩
  next different =>
    rw [if_neg different] at going
    exact unsettled_iff.mpr ⟨old, kept, ticketed, going⟩

/-- A job that may start still may as long as no ticket becomes unsettled, by what it follows. -/
theorem free_of_unsettled {queue later : Queue α σ β}
    (settled : ∀ ticket, later.unsettled ticket = true → queue.unsettled ticket = true)
    {job : Job α σ β} (free : queue.free job = true)
    : later.free job = true := by
  cases after : job.after with
  | none => simp [Queue.free, after]
  | some tail =>
      simp only [Queue.free, after, Bool.not_eq_true'] at free ⊢
      rw [Bool.eq_false_iff] at free ⊢
      exact fun held => free (settled tail held)

/-- The job behind one that is over may start, since that was what held it back. -/
theorem free_behind {queue : Queue α σ β} {ticket : Nat} {outcome : β} {other : Job α σ β}
    (behind : other.after = some ticket)
    : (queue.advance ticket (.ended outcome)).free other = true := by
  simp only [free, behind, Bool.not_eq_true', Bool.eq_false_iff]
  intro held
  obtain ⟨holder, present, ticketed, unfinished⟩ := unsettled_iff.mp held
  obtain ⟨old, _, rfl⟩ := mem_advance present
  by_cases same : old.ticket = ticket
  · simp [same, Stage.isOver] at unfinished
  · simp [same] at ticketed

/-- A head that advances keeps the order. Witness: it stays the head with its links, or the next
job is the head and waited for this one only.
-/
theorem Orderly.advance {queue : Queue α σ β} (orderly : queue.Orderly) {job : Job α σ β}
    (member : job ∈ queue.jobs) {rest : List (Job α σ β)}
    (head : queue.lane job.uri = job :: rest) (stage : Stage σ β)
    : (queue.advance job.ticket stage).Orderly := by
  have unfinished := (mem_lane.mp (head ▸ List.mem_cons_self : job ∈ queue.lane job.uri)).2.2
  have lanes := orderly.lane_advance member head stage
  have linked := orderly.linked job.uri
  have last := orderly.tailLast job.uri
  have settled (ticket : Nat)
      (held : (queue.advance job.ticket stage).unsettled ticket = true)
      : queue.unsettled ticket = true :=
    unsettled_of_advance member unfinished held
  rw [head] at linked last
  constructor
  case ascending =>
    refine List.pairwise_map.mpr (orderly.ascending.imp fun {a b} less => ?_)
    split <;> split <;> exact less
  case issued =>
    intro other present
    obtain ⟨old, kept, rfl⟩ := mem_advance present
    split <;> exact orderly.issued old kept
  case backward =>
    intro other present tail after
    obtain ⟨old, kept, rfl⟩ := mem_advance present
    split at after
    next same => simpa [same] using orderly.backward old kept tail after
    next different => simpa [different] using orderly.backward old kept tail after
  case linked =>
    intro uri
    rw [lanes]
    split
    · split
      · exact linked.tail
      · exact List.isChain_cons.mpr (List.isChain_cons.mp linked)
    · exact orderly.linked uri
  case headFree =>
    intro uri other isHead
    rw [lanes] at isHead
    split at isHead
    · split at isHead
      next ended =>
        cases stage with
        | ended outcome =>
            exact free_behind ((List.isChain_cons.mp linked).1 other isHead).1
        | waiting | running _ => simp [Stage.isOver] at ended
      next =>
        rw [← Option.mem_some_iff.mp isHead]
        have free := orderly.headFree job.uri job (by rw [head]; rfl)
        exact free_of_unsettled settled free
    · exact free_of_unsettled settled (orderly.headFree uri other isHead)
  case tailLast =>
    intro uri other isLast
    rw [lanes] at isLast
    split at isLast
    next same =>
      rw [same]
      split at isLast
      · cases rest with
        | nil => simp at isLast
        | cons next others => exact last other isLast
      · cases rest with
        | nil =>
            rw [← Option.mem_some_iff.mp isLast]
            exact last job rfl
        | cons next others => exact last other isLast
    next => exact orderly.tailLast uri other isLast
  case tailKnown =>
    intro uri ticket tail
    obtain ⟨known, present, ticketed, about⟩ := orderly.tailKnown uri ticket tail
    refine ⟨_, List.mem_map.mpr ⟨known, present, rfl⟩, ?_, ?_⟩
    · split <;> exact ticketed
    · split <;> exact about

/-- A job that is over keeps the order when it leaves. Witness: it is in no lane, and a tail that
it was is taken away with it.
-/
theorem Orderly.leave {queue : Queue α σ β} (orderly : queue.Orderly) {job : Job α σ β}
    (member : job ∈ queue.jobs) (ended : job.stage.isOver = true)
    : (queue.leave job).Orderly := by
  have lanes := orderly.lane_leave member ended
  have stays {other : Job α σ β} (present : other ∈ (queue.leave job).jobs)
      : other ∈ queue.jobs :=
    List.mem_of_mem_filter present
  have settled (ticket : Nat) (held : (queue.leave job).unsettled ticket = true)
      : queue.unsettled ticket = true := by
    obtain ⟨holder, present, known⟩ := unsettled_iff.mp held
    exact unsettled_iff.mpr ⟨holder, stays present, known⟩
  constructor
  case ascending => exact orderly.ascending.filter _
  case issued => exact fun other present => orderly.issued other (stays present)
  case backward => exact fun other present => orderly.backward other (stays present)
  case linked => simpa only [lanes] using orderly.linked
  case headFree =>
    intro uri other isHead
    rw [lanes] at isHead
    exact free_of_unsettled settled (orderly.headFree uri other isHead)
  case tailLast =>
    intro uri other isLast
    rw [lanes] at isLast
    have tail := orderly.tailLast uri other isLast
    obtain ⟨present, about, unfinished⟩ := mem_lane.mp (List.mem_of_getLast? isLast)
    have distinct : other.ticket ≠ job.ticket := by
      intro same
      rw [orderly.eq_of_ticket present member same, ended] at unfinished
      contradiction
    simp only [Queue.leave]
    split
    next own =>
      have elsewhere : uri ≠ job.uri := by
        intro same
        rw [same, own] at tail
        exact distinct (Option.some.inj tail).symm
      simpa [elsewhere] using tail
    next => exact tail
  case tailKnown =>
    intro uri ticket tail
    have kept : queue.tails.get? uri = some ticket := by
      simp only [Queue.leave] at tail
      split at tail
      · rw [ByUri.get?_erase] at tail
        split at tail
        · contradiction
        · exact tail
      · exact tail
    obtain ⟨known, present, ticketed, about⟩ := orderly.tailKnown uri ticket kept
    refine ⟨known, ?_, ticketed, about⟩
    simp only [Queue.leave, List.mem_filter, present, true_and, decide_eq_true_eq]
    intro same
    have equal := orderly.eq_of_ticket present member same
    have own : queue.tails.get? job.uri = some job.ticket := by
      rw [← equal, about, ticketed]
      exact kept
    rw [← about, equal, Queue.leave] at tail
    simp [own] at tail

end Queue

end Highlighter
