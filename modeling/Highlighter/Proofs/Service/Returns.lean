import Highlighter.Proofs.Service.Soundness

/-! What a run tells about itself. Its effects say what every document looks like; every call that
is over has returned to its caller or will, with the answer that it settled on; and the events of a
call come in one order, each at most once, so that every load and every publication has one result.
-/

namespace Highlighter

variable {publishes : Bool} {service : Service}

-----------------------------------------------------------------------------------------
-- Effects and the content of documents
-----------------------------------------------------------------------------------------

/-- Effects on other documents change nothing for a document, by cases on each of them. -/
theorem Effect.replay_others {uri : String} {effects : List Effect}
    (elsewhere : ∀ effect ∈ effects, effect.uri ≠ uri) (content : Option Snapshot)
    : effects.foldl (replay uri) content = content := by
  refine foldl_unchanged fun effect member => ?_
  have different := elsewhere effect member
  cases effect <;> simp_all [replay, Effect.uri]

namespace Service

/-- What an advance does to a document is in its effects: a settlement changes no document. -/
theorem Moves.content {call : Call} {move : Move} (moves : service.Moves call move)
    (uri : String)
    : (service.advance call move).2.foldl (Effect.replay uri) (service.store.get? uri)
      = move.store.get? uri := by
  have moved
      : move.effects.foldl (Effect.replay uri) (service.store.get? uri)
        = move.store.get? uri := by
    by_cases same : uri = call.uri
    · subst same
      exact moves.about.content
    · rw [moves.about.others uri same]
      refine Effect.replay_others (fun effect member => ?_) _
      rw [(moves.about.work effect member).1]
      exact Ne.symm same
  rw [Service.advance, List.foldl_append, moved]
  split <;> rfl

/-- What a step does to a document is in its effects, by cases on the step. -/
theorem Sound.content_step (sound : service.Sound) {event : Event}
    {result : Service × List Effect} (stepped : service.step publishes event = some result)
    (uri : String)
    : result.1.store.get? uri
      = result.2.foldl (Effect.replay uri) (service.store.get? uri) := by
  rcases sound.step_cases stepped with
    ⟨request, -, rfl⟩ | ⟨call, move, moves, rfl⟩ | ⟨call, answer, -, -, rfl⟩
  · rfl
  · exact (moves.content uri).symm
  · rfl

/-- The effects of a run say what every document looks like in the end, by its steps. -/
theorem content_of_run {events : List Event} {result : Service × List Effect}
    (ran : Service.run publishes .initial events = some result) (uri : String)
    : result.1.store.get? uri = Effect.content uri result.2 := by
  refine (Sound.of_run
    (fun _ effects service => service.store.get? uri = Effect.content uri effects) rfl
    (fun events effects service event result sound holds stepped => ?_) ran).2
  rw [Effect.content, List.foldl_append, ← Effect.content, ← holds]
  exact sound.content_step stepped uri

end Service

-----------------------------------------------------------------------------------------
-- Settled calls and their callers
-----------------------------------------------------------------------------------------

/-- The ticket and the answer of a call on a document that is over. -/
def Call.ended? (uri : String) (call : Call) : Option (Nat × Except Failure Answer) :=
  match call.stage with
  | .ended answer => if call.uri = uri then some (call.ticket, answer) else none
  | _ => none

/-- Only a call that is over has an answer, by its stage. -/
theorem Call.ended?_of_going {uri : String} {call : Call} (going : call.stage.isOver = false)
    : call.ended? uri = none := by
  simp only [ended?]
  split
  next ended => simp [ended, Stage.isOver] at going
  next => rfl

/-- The answers on a document that no caller has yet. -/
def Service.owed (service : Service) (uri : String) : List (Nat × Except Failure Answer) :=
  service.queue.jobs.filterMap (Call.ended? uri)

namespace Service

/-- A call that moves is not over, being the head of a lane. -/
theorem Moves.going {call : Call} {move : Move} (moves : service.Moves call move)
    : call.stage.isOver = false := by
  obtain ⟨rest, head⟩ := moves.head
  exact (Queue.mem_lane.mp (head ▸ List.mem_cons_self : call ∈ service.queue.lane call.uri)).2.2

/-- An advance settles its call, and no other, if that is over then. -/
theorem Moves.settlements {call : Call} {move : Move} (moves : service.Moves call move)
    (uri : String)
    : Effect.settlements uri (service.advance call move).2
      = (Call.ended? uri { call with stage := move.stage }).toList := by
  have quiet := moves.about.unsettled uri
  rw [Effect.settlements] at quiet
  rw [Effect.settlements, Service.advance, List.filterMap_append, quiet, List.nil_append]
  cases stage : move.stage with
  | waiting | running _ => simp [Call.ended?]
  | ended answer => by_cases same : call.uri = uri <;> simp [Call.ended?, Effect.settled?, same]

/-- Nothing returns to a caller with an advance, which is work. -/
theorem Moves.returns {call : Call} {move : Move} (moves : service.Moves call move)
    (uri : String)
    : Effect.returns uri (service.advance call move).2 = [] := by
  refine List.filterMap_eq_nil_iff.mpr fun effect member => ?_
  have working := (Service.work_advance moves.about effect member).2
  cases effect <;> simp_all [Effect.isWork, Effect.returned?]

/-- What an advance settles is owed then, and what was owed still is. -/
theorem Sound.owed_advance (sound : service.Sound) {call : Call} {move : Move}
    (moves : service.Moves call move) (uri : String)
    : ((service.advance call move).1.owed uri).Perm
        (service.owed uri ++ Effect.settlements uri (service.advance call move).2) := by
  obtain ⟨front, back, jobs, before, after⟩ := sound.orderly.split moves.member
  have advanced := Queue.jobs_advance jobs before after move.stage
  rw [moves.settlements]
  simp only [owed, Service.advance, advanced, jobs, List.filterMap_append, List.filterMap_cons,
    Call.ended?_of_going moves.going]
  cases Call.ended? uri { call with stage := move.stage } with
  | none => simp
  | some settled =>
      simp only [Option.toList_some]
      rw [List.append_assoc]
      exact (List.perm_append_singleton settled _).symm.append_left _

/-- A call that leaves is owed its answer no more. -/
theorem Sound.owed_leave (sound : service.Sound) {call : Call}
    (member : call ∈ service.queue.jobs) {answer : Except Failure Answer}
    (ended : call.stage = .ended answer) (uri : String)
    : (service.owed uri).Perm
        (Effect.returns uri [.returned call.uri call.ticket answer]
          ++ owed ⟨service.store, service.queue.leave call⟩ uri) := by
  obtain ⟨front, back, jobs, before, after⟩ := sound.orderly.split member
  have left := Queue.jobs_leave jobs before after
  have returned
      : Effect.returns uri [.returned call.uri call.ticket answer]
        = (Call.ended? uri call).toList := by
    by_cases same : call.uri = uri <;>
      simp [Effect.returns, Effect.returned?, Call.ended?, ended, same]
  rw [returned, owed, owed, left, jobs]
  simp only [List.filterMap_append, List.filterMap_cons]
  cases Call.ended? uri call with
  | none => simp
  | some settled => exact List.perm_middle

/-- A step returns what was owed and owes what it settles, by cases on the step. -/
theorem Sound.owed_step (sound : service.Sound) {event : Event}
    {result : Service × List Effect} (stepped : service.step publishes event = some result)
    (uri : String)
    : (Effect.returns uri result.2 ++ result.1.owed uri).Perm
        (service.owed uri ++ Effect.settlements uri result.2) := by
  rcases sound.step_cases stepped with
    ⟨request, -, rfl⟩ | ⟨call, move, moves, rfl⟩ | ⟨call, answer, member, ended, rfl⟩
  · have waits : Call.ended? uri (service.queue.newcomer request.uri request) = none := rfl
    rw [Queue.newcomer] at waits
    simp [owed, Queue.arrive, waits, Effect.returns, Effect.settlements]
  · rw [moves.returns, List.nil_append]
    exact sound.owed_advance moves uri
  · have quiet : Effect.settlements uri [.returned call.uri call.ticket answer] = [] := rfl
    rw [quiet, List.append_nil]
    exact (sound.owed_leave member ended uri).symm

/-- Whatever a run settles is returned or owed in the end, and nothing else is, by its steps. -/
theorem settlements_of_run {events : List Event} {result : Service × List Effect}
    (ran : Service.run publishes .initial events = some result) (uri : String)
    : (Effect.returns uri result.2 ++ result.1.owed uri).Perm
        (Effect.settlements uri result.2) := by
  refine (Sound.of_run
    (fun _ effects service =>
      (Effect.returns uri effects ++ service.owed uri).Perm (Effect.settlements uri effects))
    (.refl []) (fun events effects service event result sound holds stepped => ?_) ran).2
  have stepwise := (sound.owed_step stepped uri).append_left (Effect.returns uri effects)
  rw [← List.append_assoc, ← List.append_assoc] at stepwise
  simp only [Effect.returns, Effect.settlements, List.filterMap_append] at holds stepwise ⊢
  exact stepwise.trans (holds.append_right _)

end Service

-----------------------------------------------------------------------------------------
-- The order of the events of a call
-----------------------------------------------------------------------------------------

/-- The steps that a call has before it at most when an event about it has happened. -/
def Event.stepsAfter : Event → Nat
  | .arrive _ => 4
  | .start _ => 3
  | .loaded _ _ => 2
  | .published _ _ => 1
  | .leave _ => 0

/-- Of two events about the same call the first leaves more steps. -/
def Event.Before (first second : Event) : Prop :=
  ∀ ticket,
    first.ticket? = some ticket
    → second.ticket? = some ticket
    → second.stepsAfter < first.stepsAfter

namespace Service

/-- An event has happened: its ticket was issued, and its call has no more steps than it left. -/
def Past (service : Service) (event : Event) : Prop :=
  ∀ ticket,
    event.ticket? = some ticket
    → ticket < service.queue.next
      ∧ ∀ call ∈ service.queue.jobs, call.ticket = ticket → stepsLeft call ≤ event.stepsAfter

/-- What happened stays so with the move of a call, and came before the event that moves it. -/
theorem Moves.past {call : Call} {move : Move} (moves : service.Moves call move)
    (sound : service.Sound) {event : Event} (about : event.ticket? = some call.ticket)
    (due : stepsLeft call = event.stepsAfter + 1)
    : (∀ earlier,
        service.Past earlier → (service.advance call move).1.Past earlier ∧ earlier.Before event)
      ∧ (service.advance call move).1.Past event := by
  refine ⟨fun earlier past => ⟨?_, ?_⟩, ?_⟩
  · intro ticket ticketed
    obtain ⟨issued, bound⟩ := past ticket ticketed
    refine ⟨issued, fun other present same => ?_⟩
    obtain ⟨old, kept, rfl⟩ := Queue.mem_advance present
    split at same
    next own =>
      rw [if_pos own, sound.orderly.eq_of_ticket kept moves.member own]
      exact (Nat.le_of_lt moves.nearer).trans (bound call moves.member (own ▸ same))
    next different =>
      rw [if_neg different]
      exact bound old kept same
  · intro ticket ticketed second
    rw [about] at second
    have bound := (past ticket ticketed).2 call moves.member (Option.some.inj second)
    omega
  · intro ticket ticketed
    rw [about] at ticketed
    rw [← Option.some.inj ticketed]
    refine ⟨sound.orderly.issued call moves.member, fun other present same => ?_⟩
    obtain ⟨old, kept, rfl⟩ := Queue.mem_advance present
    split at same
    next own =>
      have nearer := moves.nearer
      rw [if_pos own, sound.orderly.eq_of_ticket kept moves.member own]
      omega
    next different => exact absurd same different

/-- What happened stays so with every step, and came before its event, by cases on the step. -/
theorem Sound.past_step (sound : service.Sound) {event : Event}
    {result : Service × List Effect} (stepped : service.step publishes event = some result)
    : (∀ earlier, service.Past earlier → result.1.Past earlier ∧ earlier.Before event)
      ∧ result.1.Past event := by
  cases step_steps stepped with
  | arrive request =>
      refine ⟨fun earlier past => ⟨?_, ?_⟩, ?_⟩
      · intro ticket ticketed
        obtain ⟨issued, bound⟩ := past ticket ticketed
        refine ⟨Nat.lt_succ_of_lt issued, fun other present same => ?_⟩
        rcases List.mem_append.mp present with known | newest
        · exact bound other known same
        · rw [List.mem_singleton.mp newest] at same
          exact absurd same (Nat.ne_of_gt issued)
      · intro ticket _ second
        contradiction
      · intro ticket ticketed
        contradiction
  | @start call member waiting free =>
      exact (sound.moves_start member waiting free).past sound rfl
        (by simp [stepsLeft, waiting, Event.stepsAfter])
  | @loaded call request base member loading tree =>
      exact (sound.moves_loaded member loading tree).past sound rfl
        (by simp [stepsLeft, loading, Event.stepsAfter])
  | @published call answer member publishing outcome =>
      exact (sound.moves_published member publishing outcome).past sound rfl
        (by simp [stepsLeft, publishing, Event.stepsAfter])
  | @leave call answer member ended =>
      have fewest : stepsLeft call = 1 := by simp [stepsLeft, ended]
      refine ⟨fun earlier past => ⟨?_, ?_⟩, ?_⟩
      · intro ticket ticketed
        obtain ⟨issued, bound⟩ := past ticket ticketed
        exact ⟨issued, fun other present => bound other (List.mem_of_mem_filter present)⟩
      · intro ticket ticketed second
        have bound := (past ticket ticketed).2 call member (Option.some.inj second)
        rw [fewest] at bound
        exact bound
      · intro ticket ticketed
        rw [← Option.some.inj ticketed]
        refine ⟨sound.orderly.issued call member, fun other present same => ?_⟩
        simpa [same] using (List.mem_filter.mp present).2

/-- The events of each call come in one order, each at most once, by induction over the run. -/
theorem events_of_run {events : List Event} {result : Service × List Effect}
    (ran : Service.run publishes .initial events = some result)
    : events.Pairwise Event.Before := by
  refine (Sound.of_run
    (fun events _ service => (∀ event ∈ events, service.Past event) ∧ events.Pairwise Event.Before)
    ⟨by simp, .nil⟩ (fun events effects service event result sound holds stepped => ?_) ran).2.2
  obtain ⟨past, ordered⟩ := holds
  obtain ⟨keeps, happened⟩ := sound.past_step stepped
  refine ⟨fun earlier present => ?_, ?_⟩
  · rcases List.mem_append.mp present with before | newest
    · exact (keeps earlier (past earlier before)).1
    · rw [List.mem_singleton.mp newest]
      exact happened
  · refine List.pairwise_append.mpr ⟨ordered, List.pairwise_singleton _ _, ?_⟩
    intro earlier before latest newest
    rw [List.mem_singleton.mp newest]
    exact (keeps earlier (past earlier before)).2

end Service

/-- Events in order bring every call the result of one load and of one publication, by induction
over them: what an event brings cannot be brought again.
-/
theorem Outcomes.exists_of_ordered {events : List Event}
    (ordered : events.Pairwise Event.Before)
    : ∃ outcomes : Outcomes, ∀ event ∈ events, outcomes.Admits event := by
  induction events with
  | nil => exact ⟨⟨fun _ => .error .directory, fun _ => .ok ()⟩, by simp⟩
  | cons event rest ih =>
      obtain ⟨before, later⟩ := List.pairwise_cons.mp ordered
      obtain ⟨outcomes, admitted⟩ := ih later
      cases event with
      | arrive _ | start _ | leave _ =>
          exact ⟨outcomes, List.forall_mem_cons.mpr ⟨trivial, admitted⟩⟩
      | loaded ticket tree =>
          refine ⟨⟨Function.update outcomes.load ticket tree, outcomes.publication⟩,
            List.forall_mem_cons.mpr ⟨by simp [Admits], fun other member => ?_⟩⟩
          have kept := admitted other member
          cases other with
          | arrive _ | start _ | leave _ => trivial
          | published _ _ => exact kept
          | loaded next _ =>
              have different : next ≠ ticket := by
                rintro rfl
                exact absurd (before _ member next rfl rfl) (Nat.lt_irrefl _)
              simpa [Admits, different] using kept
      | published ticket result =>
          refine ⟨⟨outcomes.load, Function.update outcomes.publication ticket result⟩,
            List.forall_mem_cons.mpr ⟨by simp [Admits], fun other member => ?_⟩⟩
          have kept := admitted other member
          cases other with
          | arrive _ | start _ | leave _ => trivial
          | loaded _ _ => exact kept
          | published next _ =>
              have different : next ≠ ticket := by
                rintro rfl
                exact absurd (before _ member next rfl rfl) (Nat.lt_irrefl _)
              simpa [Admits, different] using kept

end Highlighter
