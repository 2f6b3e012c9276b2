import Highlighter.Proofs.Service.Moves

/-! What holds of the service whenever it can be reached: the queue is in order, and a highlight
that waits for its tree will be compared with what its document still looks like. Every step but an
arrival is therefore about one document, and brings one call nearer to its end.
-/

namespace Highlighter.Service

/-- The queue is in order, calls are queued by the documents that they are about, and a call that
waits for its tree is a highlight of a newer version than the one its document has.
-/
structure Sound (service : Service) : Prop where
  orderly : service.queue.Orderly
  named : ∀ call ∈ service.queue.jobs, call.task.uri = call.uri
  loading
    : ∀ call ∈ service.queue.jobs,
        ∀ request base,
          call.stage = .running (.loading request base)
          → call.task = .highlight request
            ∧ base = service.store.get? call.uri
            ∧ request.checkVersion base = .ok ()

/-- At the start nothing is asked. -/
theorem Sound.initial : initial.Sound where
  orderly := .empty
  named := by simp [Service.initial, Queue.empty]
  loading := by simp [Service.initial, Queue.empty]

/-- The head of a lane makes a move about its own document and comes nearer to its end; if it is to
wait for a tree then, it is a highlight that may.
-/
structure Moves (service : Service) (call : Call) (move : Move) : Prop where
  member : call ∈ service.queue.jobs
  head : ∃ rest, service.queue.lane call.uri = call :: rest
  about : move.About call.uri service.store
  nearer : stepsLeft { call with stage := move.stage } < stepsLeft call
  fits
    : ∀ request base,
        move.stage = .running (.loading request base)
        → call.task = .highlight request
          ∧ base = move.store.get? call.uri
          ∧ request.checkVersion base = .ok ()

variable {publishes : Bool} {service : Service}

/-- A free call moves by taking its turn, by cases on what it finds. -/
theorem Sound.moves_start (sound : service.Sound) {call : Call}
    (member : call ∈ service.queue.jobs) (waiting : call.stage = .waiting)
    (free : service.queue.free call = true)
    : service.Moves call (.ofTurn service.store call.task) := by
  have named := sound.named call member
  refine ⟨member, sound.orderly.head_of_free member waiting free,
    named ▸ Move.about_ofTurn service.store call.task, ?_, ?_⟩
  · rcases Move.ofTurn_cases service.store call.task with ⟨_, ended⟩ | ⟨_, _, _, turn⟩
    · simp [stepsLeft, ended, waiting]
    · simp [stepsLeft, turn, waiting]
  · intro request base loading
    rcases Move.ofTurn_cases service.store call.task with
      ⟨_, ended⟩ | ⟨wanted, task, accepted, turn⟩
    · rw [ended] at loading
      contradiction
    · rw [turn] at loading ⊢
      injection loading with progress
      injection progress with request base
      subst request base
      rw [task, Request.uri] at named
      exact ⟨task, by rw [named], accepted⟩

/-- A call that waits for its tree moves when the load has ended, by cases on tree and answer. -/
theorem Sound.moves_loaded (sound : service.Sound) {call : Call}
    (member : call ∈ service.queue.jobs) {request : HighlightRequest}
    {base : Option Snapshot} (loading : call.stage = .running (.loading request base))
    (tree : Except LoadFault Tree)
    : service.Moves call (.ofLoad publishes service.store request base tree) := by
  obtain ⟨task, _, _⟩ := sound.loading call member request base loading
  have named : request.uri = call.uri := by
    simpa only [task, Request.uri] using sound.named call member
  have cases := Move.ofLoad_cases publishes service.store request base tree
  refine ⟨member, sound.orderly.head_of_running member loading,
    named ▸ Move.about_ofLoad publishes service.store request base tree, ?_, ?_⟩
  · rcases cases with ⟨_, ended⟩ | ⟨_, handed, _⟩
    · simp [stepsLeft, ended, loading]
    · simp [stepsLeft, handed, loading]
  · intro request base again
    rcases cases with ⟨_, ended⟩ | ⟨_, handed, _⟩
    · simp [ended] at again
    · simp [handed] at again

/-- A call that waits for its publication moves when that has ended, and is over. -/
theorem Sound.moves_published (sound : service.Sound) {call : Call}
    (member : call ∈ service.queue.jobs) {answer : Highlighted}
    (publishing : call.stage = .running (.publishing answer)) (result : Except String Unit)
    : service.Moves call (.ofResult service.store answer result) := by
  refine ⟨member, sound.orderly.head_of_running member publishing,
    Move.about_ofResult call.uri service.store answer result, ?_, ?_⟩
  · simp [stepsLeft, Move.ofResult, publishing]
  · simp [Move.ofResult]

/-- A step is an arrival, the move of a call, or a return. -/
theorem Sound.step_cases (sound : service.Sound) {event : Event}
    {result : Service × List Effect} (stepped : service.step publishes event = some result)
    : (∃ request,
        event = .arrive request
        ∧ result = (⟨service.store, service.queue.arrive request.uri request⟩, []))
      ∨ (∃ call move, service.Moves call move ∧ result = service.advance call move)
      ∨ ∃ call answer,
          call ∈ service.queue.jobs
          ∧ call.stage = .ended answer
          ∧ result
            = (⟨service.store, service.queue.leave call⟩,
              [.returned call.uri call.ticket answer]) := by
  cases step_steps stepped with
  | arrive request => exact Or.inl ⟨request, rfl, rfl⟩
  | start member waiting free =>
      exact Or.inr (Or.inl ⟨_, _, sound.moves_start member waiting free, rfl⟩)
  | loaded member loading tree =>
      exact Or.inr (Or.inl ⟨_, _, sound.moves_loaded member loading tree, rfl⟩)
  | published member publishing result =>
      exact Or.inr (Or.inl ⟨_, _, sound.moves_published member publishing result, rfl⟩)
  | leave member ended => exact Or.inr (Or.inr ⟨_, _, member, ended, rfl⟩)

/-- A call that moves keeps the service sound. Witness: it is the only one of its document that
runs, so no other call waits for a tree to compare with what it changes.
-/
theorem Sound.advance (sound : service.Sound) {call : Call} {move : Move}
    (moves : service.Moves call move)
    : (service.advance call move).1.Sound := by
  obtain ⟨rest, head⟩ := moves.head
  refine ⟨sound.orderly.advance moves.member head move.stage, ?_, ?_⟩
  · intro other present
    obtain ⟨old, kept, rfl⟩ := Queue.mem_advance present
    split <;> exact sound.named old kept
  · intro other present request base loading
    obtain ⟨old, kept, rfl⟩ := Queue.mem_advance present
    split at loading
    next own =>
      rw [if_pos own]
      rw [sound.orderly.eq_of_ticket kept moves.member own]
      exact moves.fits request base loading
    next different =>
      rw [if_neg different]
      obtain ⟨task, same, accepted⟩ := sound.loading old kept request base loading
      have elsewhere : old.uri ≠ call.uri := by
        intro uri
        obtain ⟨others, first⟩ := sound.orderly.head_of_running kept loading
        rw [uri, head] at first
        exact different (congrArg Job.ticket (List.cons.inj first).1).symm
      exact ⟨task, same.trans (moves.about.others old.uri elsewhere).symm, accepted⟩

/-- Every step keeps the service sound, by cases on the step. -/
theorem Sound.step (sound : service.Sound) {event : Event} {result : Service × List Effect}
    (stepped : service.step publishes event = some result)
    : result.1.Sound := by
  rcases sound.step_cases stepped with
    ⟨request, -, rfl⟩ | ⟨call, move, moves, rfl⟩ | ⟨call, answer, member, ended, rfl⟩
  · refine ⟨sound.orderly.arrive request.uri request, ?_, ?_⟩
    · intro other present
      rcases List.mem_append.mp present with earlier | newest
      · exact sound.named other earlier
      · rw [List.mem_singleton.mp newest]
    · intro other present wanted base loading
      rcases List.mem_append.mp present with earlier | newest
      · exact sound.loading other earlier wanted base loading
      · rw [List.mem_singleton.mp newest] at loading
        contradiction
  · exact sound.advance moves
  · refine ⟨sound.orderly.leave member (by simp [ended, Stage.isOver]), ?_, ?_⟩
    · exact fun other present => sound.named other (List.mem_of_mem_filter present)
    · exact fun other present => sound.loading other (List.mem_of_mem_filter present)

/-- What every step keeps holds after every run, by induction over the events. It may speak of the
events and of the effects so far.
-/
theorem Sound.run_induction
    (property : List Event → List Effect → Service → Prop)
    (keeps
      : ∀ events effects service event result,
          service.Sound
          → property events effects service
          → service.step publishes event = some result
          → property (events ++ [event]) (effects ++ result.2) result.1)
    (sound : service.Sound) {past events : List Event} {effects : List Effect}
    (holds : property past effects service) {result : Service × List Effect}
    (ran : service.run publishes events = some result)
    : result.1.Sound ∧ property (past ++ events) (effects ++ result.2) result.1 := by
  induction events generalizing past effects service result with
  | nil =>
      rw [← Option.some.inj ran]
      simpa only [List.append_nil] using ⟨sound, holds⟩
  | cons event rest ih =>
      obtain ⟨⟨next, first⟩, stepped, continued⟩ := Option.bind_eq_some_iff.mp ran
      obtain ⟨⟨last, others⟩, ran', result⟩ := Option.bind_eq_some_iff.mp continued
      rw [← Option.some.inj result]
      have kept := keeps past effects service event (next, first) sound holds stepped
      have reached := ih (sound.step stepped) kept ran'
      simpa only [List.append_assoc, List.cons_append, List.nil_append] using reached

/-- What holds at the start and is kept by every step holds after every run, and the service is
sound then.
-/
theorem Sound.of_run (property : List Event → List Effect → Service → Prop)
    (begins : property [] [] .initial)
    (keeps
      : ∀ events effects service event result,
          service.Sound
          → property events effects service
          → service.step publishes event = some result
          → property (events ++ [event]) (effects ++ result.2) result.1)
    {events : List Event} {result : Service × List Effect}
    (ran : Service.run publishes .initial events = some result)
    : result.1.Sound ∧ property events result.2 result.1 :=
  Sound.run_induction property keeps .initial begins ran

end Highlighter.Service
