import Highlighter.Proofs.Service.Abreast
import Highlighter.Proofs.Service.Returns
import Highlighter.Proofs.Tree.Resolved
import Mathlib

/-! Requests on one document are serializable. However the steps of calls mix, each document sees
what the calls on it do when they are performed one after the other in the order of their arrival,
each to its end; and no call waits for ever, since one that has not returned can be brought nearer
to its end.
-/

namespace Highlighter

-----------------------------------------------------------------------------------------
-- The settlements of calls that are performed in turn
-----------------------------------------------------------------------------------------

/-- Performing a request works on its own document, by cases on when it is over. -/
theorem Store.about_perform (surroundings : Surroundings) (store : Store) (request : Request)
    (stage : Stage Progress (Except Failure Answer))
    : Move.About request.uri store
        ⟨(store.perform surroundings request).1, stage,
          (store.perform surroundings request).2.1⟩ := by
  rcases Move.ofTurn_cases store request with ⟨answer, ended⟩ | ⟨wanted, task, accepted, _⟩
  · rw [perform_of_turn surroundings ended]
    obtain ⟨work, unsettled, others, content⟩ := Move.about_ofTurn store request
    exact ⟨work, unsettled, others, content⟩
  · subst task
    have performed := @perform_of_load surroundings store wanted accepted _ rfl
    obtain ⟨work, unsettled, others, content⟩ :=
      Move.about_ofLoad surroundings.publishes store wanted (store.get? wanted.uri)
        (surroundings.load wanted.path)
    rcases Move.ofLoad_cases surroundings.publishes store wanted (store.get? wanted.uri)
        (surroundings.load wanted.path) with
      ⟨answer, ended⟩ | ⟨answer, publishing, _⟩
    · rw [performed.1 answer ended]
      exact ⟨work, unsettled, others, content⟩
    · rw [performed.2 answer publishing]
      exact ⟨work, unsettled, others, content⟩

/-- Calls on a document that are performed in turn settle in this order, by induction over them. -/
theorem Store.settlements_performAll (outcomes : Outcomes) (publishes : Bool) {uri : String}
    {calls : List (Nat × Request)} (own : ∀ call ∈ calls, call.2.uri = uri) (store : Store)
    : (Effect.settlements uri (performAll outcomes publishes store calls).2).map (·.1)
      = calls.map (·.1) := by
  induction calls generalizing store with
  | nil => rfl
  | cons call rest ih =>
      have quiet :=
        (about_perform (outcomes.surroundings publishes call.1) store call.2 .waiting).unsettled uri
      have named := own call List.mem_cons_self
      simp only [Effect.settlements] at quiet ih
      simp [performAll, Effect.settlements, Effect.settled?, quiet, named,
        ih fun other member => own other (List.mem_cons_of_mem call member)]

/-- A request looks at nothing but its own document, by cases on when it is over. -/
theorem Store.perform_congr (surroundings : Surroundings) {store other : Store}
    {request : Request} (same : store.get? request.uri = other.get? request.uri)
    : (store.perform surroundings request).2 = (other.perform surroundings request).2
      ∧ (store.perform surroundings request).1.get? request.uri
        = (other.perform surroundings request).1.get? request.uri := by
  have turns := Move.alike_ofTurn same
  rcases Move.ofTurn_cases store request with ⟨answer, ended⟩ | ⟨wanted, task, accepted, _⟩
  · rw [perform_of_turn surroundings ended,
      perform_of_turn surroundings (turns.stage.symm.trans ended)]
    exact ⟨by rw [turns.effects], turns.content⟩
  · subst task
    rw [Request.uri] at same
    have performed := @perform_of_load surroundings store wanted accepted _ rfl
    have alone := @perform_of_load surroundings other wanted (same ▸ accepted) _ rfl
    have loads := @Move.alike_ofLoad surroundings.publishes store other wanted
      (other.get? wanted.uri) (surroundings.load wanted.path) same
    rw [same] at performed
    rcases Move.ofLoad_cases surroundings.publishes store wanted (other.get? wanted.uri)
        (surroundings.load wanted.path) with
      ⟨answer, ended⟩ | ⟨answer, publishing, _⟩
    · rw [performed.1 answer ended, alone.1 answer (loads.stage.symm.trans ended)]
      exact ⟨by rw [loads.effects], loads.content⟩
    · rw [performed.2 answer publishing, alone.2 answer (loads.stage.symm.trans publishing)]
      exact ⟨by rw [loads.effects], loads.content⟩

/-- Calls on a document look at nothing but it, by induction over them. -/
theorem Store.get?_performAll_congr (outcomes : Outcomes) (publishes : Bool) {uri : String}
    {calls : List (Nat × Request)} (own : ∀ call ∈ calls, call.2.uri = uri)
    {store other : Store} (same : store.get? uri = other.get? uri)
    : (performAll outcomes publishes store calls).1.get? uri
      = (performAll outcomes publishes other calls).1.get? uri := by
  induction calls generalizing store other with
  | nil => exact same
  | cons call rest ih =>
      have named := own call List.mem_cons_self
      refine ih (fun later member => own later (List.mem_cons_of_mem call member)) ?_
      rw [← named] at same ⊢
      exact (perform_congr _ same).2

/-- The calls on a document are about it, by induction over the events. -/
theorem Event.uri_of_callsOn {uri : String} {next : Nat} {events : List Event}
    {call : Nat × Request} (member : call ∈ callsOn uri next events)
    : call.2.uri = uri := by
  induction events generalizing next with
  | nil => contradiction
  | cons event rest ih =>
      cases event with
      | arrive request =>
          simp only [callsOn] at member
          split at member
          next same =>
            rcases List.mem_cons.mp member with rfl | later
            · exact same
            · exact ih later
          next => exact ih member
      | start _ | loaded _ _ | published _ _ | leave _ => exact ih member

/-- Work includes every settlement, by cases on the effects. -/
theorem Effect.settlements_workOn (uri : String) (effects : List Effect)
    : settlements uri (workOn uri effects) = settlements uri effects := by
  rw [settlements, settlements, workOn, List.filterMap_filter]
  refine List.filterMap_congr fun effect _ => ?_
  cases effect with
  | settled other ticket answer =>
      by_cases same : other = uri <;> simp [settled?, Effect.uri, isWork, same]
  | warned _ _ | stored _ _ | removed _ | handed _ _ | returned _ _ _ => simp [settled?]

-----------------------------------------------------------------------------------------
-- Calls that have not returned
-----------------------------------------------------------------------------------------

namespace Service

variable {publishes : Bool} {service : Service}

/-- The work that is left is the sum of the steps that the calls have left. -/
theorem work_eq_sum (service : Service)
    : service.work = (service.queue.jobs.map stepsLeft).sum := by
  rw [List.sum_eq_foldr, List.foldr_map]
  rfl

/-- Every step but an arrival leaves less work, since a call moves or leaves with it. -/
theorem Sound.work_step (sound : service.Sound) {event : Event} {ticket : Nat}
    (about : event.ticket? = some ticket) {result : Service × List Effect}
    (stepped : service.step publishes event = some result)
    : result.1.work < service.work := by
  rcases sound.step_cases stepped with
    ⟨request, rfl, -⟩ | ⟨call, move, moves, rfl⟩ | ⟨call, answer, member, ended, rfl⟩
  · contradiction
  · obtain ⟨front, back, jobs, before, after⟩ := sound.orderly.split moves.member
    have advanced := Queue.jobs_advance jobs before after move.stage
    have nearer := moves.nearer
    simp only [work_eq_sum, Service.advance, advanced, jobs, List.map_append, List.map_cons,
      List.sum_append, List.sum_cons]
    omega
  · obtain ⟨front, back, jobs, before, after⟩ := sound.orderly.split member
    have step : 0 < stepsLeft call := by simp [stepsLeft, ended]
    simp only [work_eq_sum, Queue.jobs_leave jobs before after, jobs, List.map_append,
      List.map_cons, List.sum_append, List.sum_cons]
    omega

/-- Whatever a case of the steps allows is a step, since tickets find their calls. -/
theorem Sound.step_of_steps (sound : service.Sound) {event : Event}
    {result : Service × List Effect} (steps : service.Steps publishes event result)
    : service.step publishes event = some result := by
  cases steps with
  | arrive request => rfl
  | start member waiting free =>
      simp [Service.step, sound.orderly.job?_of_mem member, move?, waiting, free]
  | loaded member loading tree =>
      simp [Service.step, sound.orderly.job?_of_mem member, move?, loading]
  | published member publishing result =>
      simp [Service.step, sound.orderly.job?_of_mem member, move?, publishing]
  | leave member ended =>
      simp [Service.step, sound.orderly.job?_of_mem member, leave?, ended]

/-- While a call on a document has not returned, some call on it can go on. Witness: one that is
over returns; otherwise the head of the lane may start, or what it waits for may come.
-/
theorem Sound.unblocked (sound : service.Sound) (outcomes : Outcomes) {call : Call}
    (member : call ∈ service.queue.jobs)
    : ∃ other ∈ service.queue.jobs, ∃ event result,
        other.uri = call.uri
        ∧ event.ticket? = some other.ticket
        ∧ outcomes.Admits event
        ∧ service.Steps publishes event result := by
  cases stage : call.stage with
  | ended answer =>
      exact ⟨call, member, .leave call.ticket, _, rfl, rfl, trivial, .leave member stage⟩
  | waiting | running _ =>
      have present : call ∈ service.queue.lane call.uri :=
        Queue.mem_lane.mpr ⟨member, rfl, by simp [stage, Stage.isOver]⟩
      obtain ⟨head, rest, lane⟩ := List.exists_cons_of_ne_nil (List.ne_nil_of_mem present)
      obtain ⟨waits, about, going⟩ :=
        Queue.mem_lane.mp (lane ▸ List.mem_cons_self : head ∈ service.queue.lane call.uri)
      cases turn : head.stage with
      | waiting =>
          have free := sound.orderly.headFree call.uri head (by rw [lane]; rfl)
          exact ⟨head, waits, .start head.ticket, _, about, rfl, trivial, .start waits turn free⟩
      | running progress =>
          cases progress with
          | loading request base =>
              exact ⟨head, waits, .loaded head.ticket (outcomes.load head.ticket), _, about, rfl,
                rfl, .loaded waits turn _⟩
          | publishing answer =>
              exact ⟨head, waits, .published head.ticket (outcomes.publication head.ticket), _,
                about, rfl, rfl, .published waits turn _⟩
      | ended answer => simp [turn, Stage.isOver] at going

end Service

-----------------------------------------------------------------------------------------
-- Every document sees a serial performance
-----------------------------------------------------------------------------------------

/-- No call on a document is left. -/
def Service.Idle (service : Service) (uri : String) : Prop :=
  ∀ call ∈ service.queue.jobs, call.uri ≠ uri

/-- What a document sees of a run is what the calls on it do when they are performed in turn, as
far as they have come. What is stored takes the place of what it was compared with, and the content
of the document is what the effects say. Its callers have what their calls settled on, each once. A
call that has not returned can be brought nearer to its end; when all have returned, all has been
done, and what came before a close has left no trace.
-/
structure Serialized (outcomes : Outcomes) (publishes : Bool) (uri : String)
    (calls : List (Nat × Request)) (effects : List Effect) (service : Service)
    : Prop where
  begun : Effect.workOn uri effects <+: (Store.performAll outcomes publishes .empty calls).2
  content : service.store.get? uri = Effect.content uri effects
  compared
    : ∀ call ∈ service.queue.jobs, ∀ request base,
        call.uri = uri
        → call.stage = .running (.loading request base)
        → base = service.store.get? uri
  settled
    : (Effect.settlements uri (Store.performAll outcomes publishes .empty calls).2).map (·.1)
      = calls.map (·.1)
  returned
    : (Effect.returns uri effects).Subperm
        (Effect.settlements uri (Store.performAll outcomes publishes .empty calls).2)
  unblocked
    : ¬ service.Idle uri
      → ∃ call ∈ service.queue.jobs, ∃ event result,
          call.uri = uri
          ∧ event.ticket? = some call.ticket
          ∧ outcomes.Admits event
          ∧ service.step publishes event = some result
          ∧ result.1.work < service.work
  finished
    : service.Idle uri
      → Effect.workOn uri effects = (Store.performAll outcomes publishes .empty calls).2
        ∧ service.store.get? uri
          = (Store.performAll outcomes publishes .empty calls).1.get? uri
        ∧ (Effect.returns uri effects).Perm
            (Effect.settlements uri (Store.performAll outcomes publishes .empty calls).2)
  closed
    : service.Idle uri
      → ∀ earlier ticket later,
          calls = earlier ++ (ticket, .close uri) :: later
          → service.store.get? uri
            = (Store.performAll outcomes publishes .empty later).1.get? uri

/-- Closing a document leaves it closed, whether it was open or not. -/
theorem Store.get?_perform_close (surroundings : Surroundings) (store : Store) (uri : String)
    : (store.perform surroundings (.close uri)).1.get? uri = none := by
  cases found : store.get? uri <;> simp [perform, found]

/-- What a document has seen is the beginning of the serial performance, by how far its head is. -/
theorem Abreast.begun {outcomes : Outcomes} {publishes : Bool} {uri : String} {store : Store}
    {work : List Effect} {done : List (Nat × Request)} {lane : List Call}
    (abreast
      : Abreast outcomes publishes uri store work
          (Store.performAll outcomes publishes .empty done) lane)
    : work <+: (Store.performAll outcomes publishes .empty (done ++ lane.map Call.entry)).2 := by
  rw [Store.performAll_append]
  cases abreast with
  | level _ same _ =>
      rw [same]
      exact List.prefix_append _ _
  | publishing performed _ _ same =>
      rw [same, List.map_cons, Call.entry, Store.performAll_cons performed]
      exact List.prefix_append_right_inj _ |>.mpr (List.prefix_append _ _)

/-- A document without a lane has seen the whole performance. -/
theorem Abreast.finished {outcomes publishes uri store work serial}
    (abreast : Abreast outcomes publishes uri store work serial [])
    : store.get? uri = serial.1.get? uri ∧ work = serial.2 := by
  cases abreast with
  | level content same _ => exact ⟨content, same⟩

/-- No lane is left where no call is left, by the filter. -/
theorem Service.Idle.lane_eq_nil {service : Service} {uri : String} (idle : service.Idle uri)
    : service.queue.lane uri = [] := by
  refine List.filter_eq_nil_iff.mpr fun call member => ?_
  simp [Queue.inLane, idle call member]

/-- Nothing is owed where no call is left. -/
theorem Service.Idle.owed_eq_nil {service : Service} {uri : String} (idle : service.Idle uri)
    : service.owed uri = [] := by
  refine List.filterMap_eq_nil_iff.mpr fun call member => ?_
  simp only [Call.ended?]
  split
  · simp [idle call member]
  · rfl

/-- What a run tracks of a document makes it serializable. Witness: it has seen the beginning of
the serial performance, and all of it when no lane is left.
-/
theorem Tracks.serialized {outcomes : Outcomes} {publishes : Bool}
    {calls : String → List (Nat × Request)} {effects : List Effect} {service : Service}
    (tracks : Tracks outcomes publishes calls effects service) {uri : String}
    (own : ∀ call ∈ calls uri, call.2.uri = uri)
    (content : service.store.get? uri = Effect.content uri effects)
    (accounts
      : (Effect.returns uri effects ++ service.owed uri).Perm (Effect.settlements uri effects))
    : Serialized outcomes publishes uri (calls uri) effects service := by
  obtain ⟨done, split, abreast⟩ := tracks.abreast uri
  have begun : Effect.workOn uri effects
      <+: (Store.performAll outcomes publishes .empty (calls uri)).2 := split ▸ abreast.begun
  have finished (idle : service.Idle uri)
      : service.store.get? uri
          = (Store.performAll outcomes publishes .empty (calls uri)).1.get? uri
        ∧ Effect.workOn uri effects
          = (Store.performAll outcomes publishes .empty (calls uri)).2 := by
    rw [idle.lane_eq_nil] at split abreast
    rw [List.map_nil, List.append_nil] at split
    exact split ▸ abreast.finished
  constructor
  case begun => exact begun
  case content => exact content
  case compared =>
    intro call member request base about loading
    exact about ▸ (tracks.sound.loading call member request base loading).2.1
  case settled => exact Store.settlements_performAll outcomes publishes own .empty
  case returned =>
    have part := (begun.filterMap (Effect.settled? uri)).sublist.subperm
    have settled := Effect.settlements_workOn uri effects
    simp only [Effect.settlements] at settled accounts ⊢
    rw [settled] at part
    exact ((List.sublist_append_left _ _).subperm.trans accounts.subperm).trans part
  case unblocked =>
    intro busy
    simp only [Service.Idle, ne_eq, not_forall, not_not] at busy
    obtain ⟨call, member, about⟩ := busy
    obtain ⟨other, present, event, result, same, ticketed, admitted, steps⟩ :=
      tracks.sound.unblocked outcomes member
    have stepped := tracks.sound.step_of_steps steps
    exact ⟨other, present, event, result, same.trans about, ticketed, admitted, stepped,
      tracks.sound.work_step ticketed stepped⟩
  case finished =>
    intro idle
    obtain ⟨equal, worked⟩ := finished idle
    refine ⟨worked, equal, ?_⟩
    rw [← worked, Effect.settlements_workOn]
    simpa only [idle.owed_eq_nil, List.append_nil] using accounts
  case closed =>
    intro idle earlier ticket later order
    have about : ∀ call ∈ later, call.2.uri = uri := fun call member =>
      own call (order ▸ List.mem_append_right _ (List.mem_cons_of_mem _ member))
    have shut := Store.get?_perform_close (outcomes.surroundings publishes ticket)
      (Store.performAll outcomes publishes .empty earlier).1 uri
    rw [(finished idle).1, order, Store.performAll_append]
    exact Store.get?_performAll_congr outcomes publishes about shut

/-- Every document is serializable after a run, by what the run has tracked of it. -/
theorem Service.serialized_of_run {publishes : Bool} {events : List Event} {service : Service}
    {effects : List Effect}
    (ran : Service.run publishes .initial events = some (service, effects))
    {outcomes : Outcomes} (admitted : ∀ event ∈ events, outcomes.Admits event) (uri : String)
    : Serialized outcomes publishes uri (Event.callsOn uri 0 events) effects service := by
  have tracks := (Tracks.initial outcomes publishes).run ran admitted
  refine Tracks.serialized tracks ?_ (Service.content_of_run ran uri)
    (Service.settlements_of_run ran uri)
  exact fun call member => Event.uri_of_callsOn member

/-- However the calls of any number of documents mix, every document sees a serial performance of
the calls on it in the order of their arrival, each with the tree that its own load returned. Every
load and every publication returns once, so there is such a performance.
-/
theorem Service.run_serializable {publishes : Bool} {events : List Event} {service : Service}
    {effects : List Effect}
    (ran : Service.run publishes .initial events = some (service, effects))
    : (∃ outcomes : Outcomes, ∀ event ∈ events, outcomes.Admits event)
      ∧ ∀ outcomes : Outcomes,
          (∀ event ∈ events, outcomes.Admits event)
          → ∀ uri,
              Serialized outcomes publishes uri (Event.callsOn uri 0 events) effects service := by
  refine ⟨Outcomes.exists_of_ordered (Service.events_of_run ran), ?_⟩
  intro outcomes admitted uri
  exact serialized_of_run ran admitted uri

/-- Two documents at once: one is highlighted and closed meanwhile, and the other one's tree cannot
be loaded. The close returns to its caller first.
-/
def Service.interleaved : List Event :=
  [.arrive (.highlight ⟨"main.cpp", .ofInt 1, "main.json"⟩),
    .arrive (.highlight ⟨"other.cpp", .ofInt 1, "other.json"⟩),
    .start 0, .arrive (.close "main.cpp"), .start 1,
    .loaded 1 (.error (.notFound "other.json")), .loaded 0 (.ok (.ofMacro 2 0 3)), .leave 1,
    .published 0 (.ok ()), .start 2, .leave 2, .leave 0]

/-- What the loads and the publications of the interleaved calls return. -/
def Outcomes.interleaved : Outcomes where
  load ticket := if ticket = 0 then .ok (.ofMacro 2 0 3) else .error (.notFound "other.json")
  publication _ := .ok ()

/-- The interleaved calls on the document that is closed meanwhile are serializable. -/
theorem Service.run_serializable_interleaved
    : ∃ service effects,
        Service.run true .initial interleaved = some (service, effects)
        ∧ Serialized .interleaved true "main.cpp"
            [(0, .highlight ⟨"main.cpp", .ofInt 1, "main.json"⟩), (2, .close "main.cpp")]
            effects service := by
  have runs : (Service.run true .initial interleaved).isSome = true := by cbv
  obtain ⟨⟨service, effects⟩, ran⟩ := Option.isSome_iff_exists.mp runs
  have admitted : ∀ event ∈ interleaved, Outcomes.interleaved.Admits event := by
    simp [interleaved, Outcomes.interleaved, Outcomes.Admits]
  exact ⟨service, effects, ran,
    (Service.run_serializable ran).2 .interleaved admitted "main.cpp"⟩

end Highlighter
