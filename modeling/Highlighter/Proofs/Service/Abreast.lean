import Highlighter.Proofs.Service.Soundness

/-! Every document next to the serial performance of the calls on it. The lane of a document holds
the calls that are not over; those before it have done exactly what performing them in turn does,
and its head is at most halfway through its own performance.
-/

namespace Highlighter

-----------------------------------------------------------------------------------------
-- Effects by document
-----------------------------------------------------------------------------------------

namespace Effect

/-- The work of two runs of effects is the work of both, by the filter. -/
@[simp] theorem workOn_append (uri : String) (first second : List Effect)
    : workOn uri (first ++ second) = workOn uri first ++ workOn uri second :=
  List.filter_append _ _

/-- Work on a document is all work on it. -/
theorem workOn_own {uri : String} {effects : List Effect}
    (own : ∀ effect ∈ effects, effect.uri = uri ∧ effect.isWork = true)
    : workOn uri effects = effects := by
  refine List.filter_eq_self.mpr fun effect member => ?_
  simp [own effect member]

/-- Work on a document is no work on another. -/
theorem workOn_other {uri other : String} {effects : List Effect}
    (own : ∀ effect ∈ effects, effect.uri = uri ∧ effect.isWork = true)
    (different : other ≠ uri)
    : workOn other effects = [] := by
  refine List.filter_eq_nil_iff.mpr fun effect member => ?_
  simp [own effect member, Ne.symm different]

end Effect

-----------------------------------------------------------------------------------------
-- Performing more calls
-----------------------------------------------------------------------------------------

/-- What a call asks for, with its ticket. -/
def Call.entry (call : Call) : Nat × Request := (call.ticket, call.task)

/-- Performing more calls goes on where the first ones end, by induction over these. -/
theorem Store.performAll_append (outcomes : Outcomes) (publishes : Bool) (store : Store)
    (first others : List (Nat × Request))
    : performAll outcomes publishes store (first ++ others)
      = ((performAll outcomes publishes (performAll outcomes publishes store first).1 others).1,
        (performAll outcomes publishes store first).2
          ++ (performAll outcomes publishes
              (performAll outcomes publishes store first).1 others).2) := by
  induction first generalizing store with
  | nil => rfl
  | cons call rest ih => simp [performAll, ih]

/-- Performing a call first begins with its effects and its settlement, by definition. -/
theorem Store.performAll_cons {outcomes : Outcomes} {publishes : Bool} {store : Store}
    {ticket : Nat} {request : Request} {kept : Store} {effects : List Effect}
    {answer : Except Failure Answer}
    (performed
      : store.perform (outcomes.surroundings publishes ticket) request
        = (kept, effects, answer))
    (rest : List (Nat × Request))
    : performAll outcomes publishes store ((ticket, request) :: rest)
      = ((performAll outcomes publishes kept rest).1,
        effects ++ .settled request.uri ticket answer
          :: (performAll outcomes publishes kept rest).2) := by
  simp [performAll, performed]

-----------------------------------------------------------------------------------------
-- How far a lane is against performing its calls in turn
-----------------------------------------------------------------------------------------

/-- A document next to the serial performance of the calls on it that are over. Both look alike
unless its head waits for a publication; then the head has done all of its performance but settle.
-/
inductive Abreast (outcomes : Outcomes) (publishes : Bool) (uri : String) (store : Store)
    (work : List Effect) (serial : Store × List Effect)
    : List Call → Prop
  | level {lane} (content : store.get? uri = serial.1.get? uri) (same : work = serial.2)
    (quiet
      : ∀ call ∈ lane.head?, ∀ answer, call.stage ≠ .running (.publishing answer))
    : Abreast outcomes publishes uri store work serial lane
  | publishing {call rest answer kept effects}
    (performed
      : serial.1.perform (outcomes.surroundings publishes call.ticket) call.task
        = (kept, effects, answer.afterPublication (outcomes.publication call.ticket)))
    (stage : call.stage = .running (.publishing answer))
    (content : store.get? uri = kept.get? uri) (same : work = serial.2 ++ effects)
    : Abreast outcomes publishes uri store work serial (call :: rest)

/-- Nothing but the content of the document matters, by cases on how far its head is. -/
theorem Abreast.of_content {outcomes publishes uri store work serial lane}
    (abreast : Abreast outcomes publishes uri store work serial lane) {other : Store}
    (content : other.get? uri = store.get? uri)
    : Abreast outcomes publishes uri other work serial lane := by
  cases abreast with
  | level equal work quiet => exact .level (content.trans equal) work quiet
  | publishing performed stage equal work =>
      exact .publishing performed stage (content.trans equal) work

/-- One more call waits behind the others, by cases on how far the head is. -/
theorem Abreast.concat {outcomes publishes uri store work serial lane}
    (abreast : Abreast outcomes publishes uri store work serial lane) {call : Call}
    (waiting : call.stage = .waiting)
    : Abreast outcomes publishes uri store work serial (lane ++ [call]) := by
  cases abreast with
  | level equal work quiet =>
      refine .level equal work fun first isFirst => ?_
      cases lane with
      | nil => simp [← Option.mem_some_iff.mp isFirst, waiting]
      | cons head rest => exact quiet first isFirst
  | publishing performed stage equal work => exact .publishing performed stage equal work

/-- A document whose head does not wait for a publication looks as after the earlier calls. -/
theorem Abreast.level_inv {outcomes publishes uri store work serial call rest}
    (abreast : Abreast outcomes publishes uri store work serial (call :: rest))
    (quiet : ∀ answer, call.stage ≠ .running (.publishing answer))
    : store.get? uri = serial.1.get? uri ∧ work = serial.2 := by
  cases abreast with
  | level equal work _ => exact ⟨equal, work⟩
  | publishing _ stage _ _ => exact absurd stage (quiet _)

/-- A head that waits for its publication has all but settled, by its stage. -/
theorem Abreast.publishing_inv {outcomes publishes uri store work serial call rest answer}
    (abreast : Abreast outcomes publishes uri store work serial (call :: rest))
    (publishing : call.stage = .running (.publishing answer))
    : ∃ kept effects,
        serial.1.perform (outcomes.surroundings publishes call.ticket) call.task
          = (kept, effects, answer.afterPublication (outcomes.publication call.ticket))
        ∧ store.get? uri = kept.get? uri
        ∧ work = serial.2 ++ effects := by
  cases abreast with
  | level _ _ quiet => exact absurd publishing (quiet call rfl answer)
  | publishing performed stage equal work =>
      rw [stage] at publishing
      injection publishing with progress
      injection progress with answer
      subst answer
      exact ⟨_, _, performed, equal, work⟩

/-- The calls on every document have been performed in turn but for those in its lane. -/
structure Tracks (outcomes : Outcomes) (publishes : Bool)
    (calls : String → List (Nat × Request)) (effects : List Effect) (service : Service)
    : Prop where
  sound : service.Sound
  abreast
    : ∀ uri, ∃ done,
        calls uri = done ++ (service.queue.lane uri).map Call.entry
        ∧ Abreast outcomes publishes uri service.store (Effect.workOn uri effects)
            (Store.performAll outcomes publishes .empty done) (service.queue.lane uri)

/-- At the start there is nothing to perform. -/
theorem Tracks.initial (outcomes : Outcomes) (publishes : Bool)
    : Tracks outcomes publishes (fun _ => []) [] .initial where
  sound := .initial
  abreast := fun _ => ⟨[], rfl, .level rfl rfl (by simp [Service.initial, Queue.empty, Queue.lane])⟩

namespace Tracks

variable {outcomes : Outcomes} {publishes : Bool} {calls : String → List (Nat × Request)}
  {effects : List Effect} {service : Service}

-----------------------------------------------------------------------------------------
-- A call that moves keeps every document abreast
-----------------------------------------------------------------------------------------

/-- A call that moves leaves the other documents where they were. Witness: its effects and its
store are about its own document, and no other lane changes.
-/
theorem advance (tracks : Tracks outcomes publishes calls effects service) {call : Call}
    {move : Move} (moves : service.Moves call move)
    (own
      : ∃ done,
          calls call.uri
            = done
              ++ ((service.queue.advance call.ticket move.stage).lane call.uri).map Call.entry
          ∧ Abreast outcomes publishes call.uri move.store
              (Effect.workOn call.uri effects ++ (service.advance call move).2)
              (Store.performAll outcomes publishes .empty done)
              ((service.queue.advance call.ticket move.stage).lane call.uri))
    : Tracks outcomes publishes calls (effects ++ (service.advance call move).2)
        (service.advance call move).1 where
  sound := tracks.sound.advance moves
  abreast := by
    intro uri
    have work := Service.work_advance moves.about
    by_cases same : uri = call.uri
    · subst same
      rw [Effect.workOn_append, Effect.workOn_own work]
      exact own
    · obtain ⟨rest, head⟩ := moves.head
      obtain ⟨done, split, abreast⟩ := tracks.abreast uri
      have lane := tracks.sound.orderly.lane_advance moves.member head move.stage uri
      rw [if_neg same] at lane
      rw [Effect.workOn_append, Effect.workOn_other work same, List.append_nil]
      simp only [Service.advance, lane]
      exact ⟨done, split, abreast.of_content (moves.about.others uri same)⟩

/-- A head that is over has done its whole performance, and the next call has not begun its own. -/
theorem finish (tracks : Tracks outcomes publishes calls effects service) {call : Call}
    {move : Move} (moves : service.Moves call move) {rest : List Call}
    (head : service.queue.lane call.uri = call :: rest) {done : List (Nat × Request)}
    (split : calls call.uri = done ++ (call :: rest).map Call.entry)
    {answer : Except Failure Answer} (ended : move.stage = .ended answer)
    {kept : Store} {performance : List Effect}
    (performed
      : (Store.performAll outcomes publishes .empty done).1.perform
          (outcomes.surroundings publishes call.ticket) call.task
        = (kept, performance, answer))
    (content : move.store.get? call.uri = kept.get? call.uri)
    (same
      : Effect.workOn call.uri effects ++ move.effects
        = (Store.performAll outcomes publishes .empty done).2 ++ performance)
    : Tracks outcomes publishes calls (effects ++ (service.advance call move).2)
        (service.advance call move).1 := by
  have serial
      : Store.performAll outcomes publishes .empty (done ++ [call.entry])
        = (kept,
          (Store.performAll outcomes publishes .empty done).2
            ++ (performance ++ [.settled call.task.uri call.ticket answer])) := by
    rw [Store.performAll_append, Call.entry, Store.performAll_cons performed]
    rfl
  have lane := tracks.sound.orderly.lane_advance moves.member head move.stage call.uri
  simp only [if_true, ended, Stage.isOver] at lane
  refine tracks.advance moves ⟨done ++ [call.entry], ?_, ?_⟩
  · rw [ended, lane, split]
    simp
  · rw [ended, lane]
    refine .level ?_ ?_ ?_
    · rw [serial]
      exact content
    · rw [serial, tracks.sound.named call moves.member]
      simp only [Service.advance, ended]
      rw [← List.append_assoc, same, List.append_assoc]
    · intro next isNext answer publishing
      have waits := tracks.sound.orderly.next_waits head isNext
      simp [publishing, Stage.isWaiting] at waits

/-- A head that goes on to wait for something is still the head of its lane. -/
theorem await (tracks : Tracks outcomes publishes calls effects service) {call : Call}
    {move : Move} (moves : service.Moves call move) {rest : List Call}
    (head : service.queue.lane call.uri = call :: rest) {done : List (Nat × Request)}
    (split : calls call.uri = done ++ (call :: rest).map Call.entry)
    {progress : Progress} (running : move.stage = .running progress)
    (abreast
      : Abreast outcomes publishes call.uri move.store
          (Effect.workOn call.uri effects ++ move.effects)
          (Store.performAll outcomes publishes .empty done)
          ({ call with stage := move.stage } :: rest))
    : Tracks outcomes publishes calls (effects ++ (service.advance call move).2)
        (service.advance call move).1 := by
  have lane := tracks.sound.orderly.lane_advance moves.member head move.stage call.uri
  simp only [if_true, running, Stage.isOver] at lane
  refine tracks.advance moves ⟨done, ?_, ?_⟩
  · rw [running, lane, split]
    rfl
  · rw [running] at abreast
    rw [running, lane]
    simpa only [Service.advance, running, List.append_nil, Bool.false_eq_true, if_false]
      using abreast

/-- A call that takes its turn begins its performance. Witness: it finds its document as it would
after the earlier calls alone.
-/
theorem start (tracks : Tracks outcomes publishes calls effects service) {call : Call}
    (member : call ∈ service.queue.jobs) (waiting : call.stage = .waiting)
    (free : service.queue.free call = true)
    : Tracks outcomes publishes calls
        (effects ++ (service.advance call (.ofTurn service.store call.task)).2)
        (service.advance call (.ofTurn service.store call.task)).1 := by
  have moves := tracks.sound.moves_start member waiting free
  obtain ⟨rest, head⟩ := moves.head
  obtain ⟨done, split, abreast⟩ := tracks.abreast call.uri
  rw [head] at split abreast
  obtain ⟨content, same⟩ := abreast.level_inv (by simp [waiting])
  have named := tracks.sound.named call member
  rw [← named] at content
  have alike := Move.alike_ofTurn content
  rw [named] at alike
  rcases Move.ofTurn_cases (Store.performAll outcomes publishes .empty done).1 call.task with
    ⟨answer, ended⟩ | ⟨wanted, task, accepted, turn⟩
  · have performed := Store.perform_of_turn (outcomes.surroundings publishes call.ticket) ended
    refine tracks.finish moves head split (alike.stage.trans ended) performed alike.content ?_
    rw [same, alike.effects]
  · have loading := alike.stage
    rw [turn] at loading
    refine tracks.await moves head split loading (.level ?_ ?_ ?_)
    · rw [alike.content, turn]
    · rw [same, alike.effects, turn, List.append_nil]
    · simp [loading]

/-- A call whose load has ended goes on as it would alone. Witness: what it is compared with is
still what its document looks like.
-/
theorem loaded (tracks : Tracks outcomes publishes calls effects service) {call : Call}
    (member : call ∈ service.queue.jobs) {request : HighlightRequest} {base : Option Snapshot}
    (loading : call.stage = .running (.loading request base))
    {tree : Except LoadFault Tree} (admitted : outcomes.load call.ticket = tree)
    : Tracks outcomes publishes calls
        (effects
          ++ (service.advance call (.ofLoad publishes service.store request base tree)).2)
        (service.advance call (.ofLoad publishes service.store request base tree)).1 := by
  have moves : service.Moves call (.ofLoad publishes service.store request base tree) :=
    tracks.sound.moves_loaded member loading tree
  obtain ⟨rest, head⟩ := moves.head
  obtain ⟨done, split, abreast⟩ := tracks.abreast call.uri
  rw [head] at split abreast
  obtain ⟨content, same⟩ := abreast.level_inv (by simp [loading])
  obtain ⟨task, compared, accepted⟩ := tracks.sound.loading call member request base loading
  have uri : call.uri = request.uri := by
    rw [← tracks.sound.named call member, task, Request.uri]
  rw [content, uri] at compared
  rw [compared] at accepted
  generalize serial : Store.performAll outcomes publishes .empty done = before at *
  have alike
      : Move.Alike call.uri (.ofLoad publishes service.store request base tree)
          (.ofLoad publishes before.1 request base tree) := by
    rw [uri] at content ⊢
    exact Move.alike_ofLoad base tree content
  have performed := @Store.perform_of_load (outcomes.surroundings publishes call.ticket) _ _
    accepted _ rfl
  rw [Outcomes.publishes_surroundings, Outcomes.load_surroundings, admitted, ← task,
    ← compared] at performed
  rw [← serial] at performed same alike
  rcases Move.ofLoad_cases publishes (Store.performAll outcomes publishes .empty done).1
      request base tree with
    ⟨answer, ended⟩ | ⟨answer, publishing, publisher⟩
  · refine tracks.finish moves head split (alike.stage.trans ended) (performed.1 answer ended)
      alike.content ?_
    rw [same, alike.effects]
  · have handed := performed.2 answer publishing
    have published
        : (outcomes.surroundings publishes call.ticket).publish answer
          = outcomes.publication call.ticket := by
      simp [publisher, Outcomes.surroundings, Surroundings.publish]
    rw [published] at handed
    refine tracks.await moves head split (alike.stage.trans publishing) ?_
    refine .publishing handed (alike.stage.trans publishing) alike.content ?_
    rw [same, alike.effects]

/-- A call whose publication has ended is over with its performance. -/
theorem published (tracks : Tracks outcomes publishes calls effects service) {call : Call}
    (member : call ∈ service.queue.jobs) {answer : Highlighted}
    (publishing : call.stage = .running (.publishing answer)) {result : Except String Unit}
    (admitted : outcomes.publication call.ticket = result)
    : Tracks outcomes publishes calls
        (effects ++ (service.advance call (.ofResult service.store answer result)).2)
        (service.advance call (.ofResult service.store answer result)).1 := by
  have moves := tracks.sound.moves_published member publishing result
  obtain ⟨rest, head⟩ := moves.head
  obtain ⟨done, split, abreast⟩ := tracks.abreast call.uri
  rw [head] at split abreast
  obtain ⟨kept, performance, performed, content, same⟩ := abreast.publishing_inv publishing
  rw [admitted] at performed
  refine tracks.finish moves head split rfl performed content ?_
  rw [same]
  exact List.append_nil _

-----------------------------------------------------------------------------------------
-- Steps and runs
-----------------------------------------------------------------------------------------

/-- A request that arrives is one more call at the end of its lane. -/
theorem arrive (tracks : Tracks outcomes publishes calls effects service)
    (request : Request)
    (sound : Service.Sound ⟨service.store, service.queue.arrive request.uri request⟩)
    : Tracks outcomes publishes
        (fun uri => calls uri ++ Event.callsOn uri service.queue.next [.arrive request])
        effects ⟨service.store, service.queue.arrive request.uri request⟩ where
  sound := sound
  abreast := by
    intro uri
    obtain ⟨done, split, abreast⟩ := tracks.abreast uri
    simp only [Queue.lane_arrive]
    by_cases same : uri = request.uri
    · subst same
      refine ⟨done, ?_, ?_⟩
      · simp [split, Event.callsOn, Queue.newcomer, Call.entry]
      · rw [if_pos rfl]
        exact abreast.concat rfl
    · refine ⟨done, ?_, ?_⟩
      · simp [split, same, Ne.symm same, Event.callsOn]
      · simpa only [same, if_false] using abreast

/-- A call that returns to its caller does no more work and is in no lane. -/
theorem leave (tracks : Tracks outcomes publishes calls effects service) {call : Call}
    (member : call ∈ service.queue.jobs) {answer : Except Failure Answer}
    (ended : call.stage = .ended answer)
    (sound : Service.Sound ⟨service.store, service.queue.leave call⟩)
    : Tracks outcomes publishes calls
        (effects ++ [.returned call.uri call.ticket answer])
        ⟨service.store, service.queue.leave call⟩ where
  sound := sound
  abreast := by
    intro uri
    have quiet : Effect.workOn uri [.returned call.uri call.ticket answer] = [] := by
      simp [Effect.workOn, Effect.isWork]
    rw [Effect.workOn_append, quiet, List.append_nil,
      tracks.sound.orderly.lane_leave member (by simp [ended, Stage.isOver]) uri]
    exact tracks.abreast uri

/-- Every step keeps every document abreast, by cases on the event. -/
theorem step (tracks : Tracks outcomes publishes calls effects service) {event : Event}
    {result : Service × List Effect} (stepped : service.step publishes event = some result)
    (admitted : outcomes.Admits event)
    : Tracks outcomes publishes
        (fun uri => calls uri ++ Event.callsOn uri service.queue.next [event])
        (effects ++ result.2) result.1 := by
  have sound := tracks.sound.step stepped
  cases Service.step_steps stepped with
  | arrive request => simpa only [List.append_nil] using tracks.arrive request sound
  | start member waiting free =>
      simpa only [Event.callsOn, List.append_nil] using tracks.start member waiting free
  | loaded member loading tree =>
      simpa only [Event.callsOn, List.append_nil] using tracks.loaded member loading admitted
  | published member publishing result =>
      simpa only [Event.callsOn, List.append_nil]
        using tracks.published member publishing admitted
  | leave member ended =>
      simpa only [Event.callsOn, List.append_nil] using tracks.leave member ended sound

/-- Only an arrival takes a ticket, by cases on the step. -/
theorem callsOn_of_step {event : Event} {result : Service × List Effect}
    (stepped : service.step publishes event = some result) (uri : String) (rest : List Event)
    : Event.callsOn uri service.queue.next (event :: rest)
      = Event.callsOn uri service.queue.next [event]
        ++ Event.callsOn uri result.1.queue.next rest := by
  cases Service.step_steps stepped with
  | arrive request =>
      simp only [Event.callsOn, Queue.arrive]
      split <;> simp
  | start _ _ _ | loaded _ _ _ | published _ _ _ | leave _ _ => rfl

/-- Every run keeps every document abreast, by induction over its events. -/
theorem run (tracks : Tracks outcomes publishes calls effects service) {events : List Event}
    {result : Service × List Effect} (ran : service.run publishes events = some result)
    (admitted : ∀ event ∈ events, outcomes.Admits event)
    : Tracks outcomes publishes
        (fun uri => calls uri ++ Event.callsOn uri service.queue.next events)
        (effects ++ result.2) result.1 := by
  induction events generalizing calls effects service result with
  | nil =>
      rw [← Option.some.inj ran]
      simpa only [Event.callsOn, List.append_nil] using tracks
  | cons event rest ih =>
      obtain ⟨⟨next, first⟩, stepped, continued⟩ := Option.bind_eq_some_iff.mp ran
      obtain ⟨⟨last, others⟩, ran', result⟩ := Option.bind_eq_some_iff.mp continued
      rw [← Option.some.inj result]
      have tracked := ih (tracks.step stepped (admitted event List.mem_cons_self)) ran'
        fun later member => admitted later (List.mem_cons_of_mem event member)
      have joined
          : (fun uri => calls uri ++ Event.callsOn uri service.queue.next (event :: rest))
            = fun uri =>
                calls uri ++ Event.callsOn uri service.queue.next [event]
                  ++ Event.callsOn uri next.queue.next rest := by
        funext uri
        rw [callsOn_of_step stepped, List.append_assoc]
      rw [joined, ← List.append_assoc]
      exact tracked

end Tracks

end Highlighter
