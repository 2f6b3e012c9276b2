import Highlighter.Proofs.Service.Handover
import Highlighter.Proofs.Tree.Resolved
import Mathlib.Data.List.Permutation

/-! The discipline of publications. From the moment when a highlight hands its answer over until
the publication ends it is at the head of its lane, so nothing else happens to the document. The
answers of a document are handed over in the order of their calls, and until the next close each has
a greater version than those before it.
-/

namespace Highlighter

namespace Service

variable {publishes : Bool} {service next : Service} {event : Event} {effects : List Effect}
  {result : Service × List Effect}

-----------------------------------------------------------------------------------------
-- Lanes and steps
-----------------------------------------------------------------------------------------

/-- A call that moves changes no other lane. -/
theorem Sound.lane_other (sound : service.Sound) {call : Call} {move : Move}
    (moves : service.Moves call move) {uri : String} (different : uri ≠ call.uri)
    : (service.advance call move).1.queue.lane uri = service.queue.lane uri := by
  obtain ⟨rest, head⟩ := moves.head
  rw [Service.advance, sound.orderly.lane_advance moves.member head, if_neg different]

/-- A call is in a lane because it was, or because it has just arrived. -/
theorem Sound.lane_step (sound : service.Sound)
    (stepped : service.step publishes event = some result) {uri : String} {call : Call}
    (member : call ∈ result.1.queue.lane uri)
    : (∃ old ∈ service.queue.lane uri, old.ticket = call.ticket)
      ∨ call.ticket = service.queue.next := by
  rcases sound.step_cases stepped with
    ⟨request, -, rfl⟩ | ⟨mover, move, moves, rfl⟩ | ⟨mover, answer, present, ended, rfl⟩
  · rw [Queue.lane_arrive] at member
    split at member
    next same =>
      rcases List.mem_append.mp member with earlier | newest
      · exact .inl ⟨call, same ▸ earlier, rfl⟩
      · rw [List.mem_singleton.mp newest]
        exact .inr rfl
    next => exact .inl ⟨call, member, rfl⟩
  · obtain ⟨rest, head⟩ := moves.head
    rw [Service.advance, sound.orderly.lane_advance moves.member head] at member
    split at member
    next same =>
      subst same
      rw [head]
      split at member
      · exact .inl ⟨call, List.mem_cons_of_mem _ member, rfl⟩
      · rcases List.mem_cons.mp member with rfl | behind
        · exact .inl ⟨mover, List.mem_cons_self, rfl⟩
        · exact .inl ⟨call, List.mem_cons_of_mem _ behind, rfl⟩
    next => exact .inl ⟨call, member, rfl⟩
  · rw [sound.orderly.lane_leave present (by simp [ended, Stage.isOver])] at member
    exact .inl ⟨call, member, rfl⟩

/-- Tickets are issued one after the other. -/
theorem Sound.next_step (sound : service.Sound)
    (stepped : service.step publishes event = some result)
    : service.queue.next ≤ result.1.queue.next := by
  rcases sound.step_cases stepped with
    ⟨request, -, rfl⟩ | ⟨mover, move, moves, rfl⟩ | ⟨mover, answer, present, ended, rfl⟩
  · exact Nat.le_succ _
  · exact Nat.le_refl _
  · exact Nat.le_refl _

-----------------------------------------------------------------------------------------
-- The order of handovers
-----------------------------------------------------------------------------------------

/-- No call of a document that is not over has arrived before the one with that ticket. -/
structure Behind (uri : String) (ticket : Nat) (service : Service) : Prop where
  issued : ticket < service.queue.next
  least : ∀ call ∈ service.queue.lane uri, ticket ≤ call.ticket

theorem Behind.step {uri : String} {ticket : Nat} (behind : Behind uri ticket service)
    (sound : service.Sound) (stepped : service.step publishes event = some result)
    : Behind uri ticket result.1 := by
  refine ⟨Nat.lt_of_lt_of_le behind.issued (sound.next_step stepped), fun call member => ?_⟩
  rcases sound.lane_step stepped member with ⟨old, earlier, same⟩ | newest
  · exact same ▸ behind.least old earlier
  · exact newest ▸ Nat.le_of_lt behind.issued

/-- The head of a lane arrived before all others of it. -/
theorem Sound.behind_head (sound : service.Sound) {call : Call} {rest : List Call}
    (head : service.queue.lane call.uri = call :: rest)
    : Behind call.uri call.ticket service := by
  have member : call ∈ service.queue.jobs :=
    (Queue.mem_lane.mp (head ▸ List.mem_cons_self : call ∈ service.queue.lane call.uri)).1
  have ascending : (service.queue.lane call.uri).Pairwise fun a b => a.ticket < b.ticket :=
    sound.orderly.ascending.filter _
  refine ⟨sound.orderly.issued call member, fun other present => ?_⟩
  rw [head] at present ascending
  rcases List.mem_cons.mp present with rfl | later
  · exact Nat.le_refl _
  · exact Nat.le_of_lt ((List.pairwise_cons.mp ascending).1 other later)

-----------------------------------------------------------------------------------------
-- The publication in progress
-----------------------------------------------------------------------------------------

/-- The head of a lane is the call with that ticket, and it waits for its publication. -/
def Publishing (uri : String) (ticket : Nat) (service : Service) : Prop :=
  ∃ call rest answer,
    service.queue.lane uri = call :: rest
    ∧ call.ticket = ticket
    ∧ call.stage = .running (.publishing answer)

/-- Nothing but the end of the publication takes it from the head of its lane, by cases on the
step: another call of the document would have to be the head.
-/
theorem Publishing.step {uri : String} {ticket : Nat} (publishing : Publishing uri ticket service)
    (sound : service.Sound) (stepped : service.step publishes event = some result)
    : (∃ outcome, event = .published ticket outcome) ∨ Publishing uri ticket result.1 := by
  obtain ⟨call, rest, answer, head, rfl, stage⟩ := publishing
  have elsewhere {mover : Call} {move : Move} (moves : service.Moves mover move)
      (different : mover ≠ call)
      : Publishing uri call.ticket (service.advance mover move).1 := by
    refine ⟨call, rest, answer, ?_, rfl, stage⟩
    rw [sound.lane_other moves, head]
    rintro rfl
    obtain ⟨others, first⟩ := moves.head
    exact different (List.cons.inj (first.symm.trans head)).1
  cases step_steps stepped with
  | arrive request =>
      refine .inr ?_
      by_cases about : uri = request.uri
      · refine ⟨call, rest ++ [service.queue.newcomer request.uri request], answer, ?_, rfl, stage⟩
        rw [Queue.lane_arrive, if_pos about, ← about, head, List.cons_append]
      · refine ⟨call, rest, answer, ?_, rfl, stage⟩
        rw [Queue.lane_arrive, if_neg about, head]
  | start member waiting free =>
      refine .inr (elsewhere (sound.moves_start member waiting free) ?_)
      rintro rfl
      simp [waiting] at stage
  | loaded member loading tree =>
      refine .inr (elsewhere (sound.moves_loaded member loading tree) ?_)
      rintro rfl
      simp [loading] at stage
  | @published mover other member running outcome =>
      by_cases own : mover = call
      · exact .inl ⟨outcome, own ▸ rfl⟩
      · exact .inr (elsewhere (sound.moves_published member running outcome) own)
  | leave member ended =>
      refine .inr ⟨call, rest, answer, ?_, rfl, stage⟩
      rw [sound.orderly.lane_leave member (by simp [ended, Stage.isOver]), head]

/-- While a call publishes, what starts is on another document. -/
theorem Publishing.starts_other {uri : String} {ticket : Nat}
    (publishing : Publishing uri ticket service) (sound : service.Sound) {other : Nat}
    (stepped : service.step publishes (.start other) = some result)
    : ∃ call ∈ service.queue.jobs, call.ticket = other ∧ call.uri ≠ uri := by
  obtain ⟨call, rest, answer, head, rfl, stage⟩ := publishing
  generalize begins : Event.start other = event at stepped
  cases step_steps stepped with
  | @start starter member waiting free =>
      obtain rfl := Event.start.inj begins
      refine ⟨starter, member, rfl, ?_⟩
      rintro rfl
      obtain ⟨others, first⟩ := sound.orderly.head_of_free member waiting free
      rw [head] at first
      rw [(List.cons.inj first).1, waiting] at stage
      contradiction
  | arrive _ | loaded _ _ _ | published _ _ _ | leave _ _ => contradiction

-----------------------------------------------------------------------------------------
-- Versions of a document
-----------------------------------------------------------------------------------------

/-- A document is open with a version that is not less. -/
def AtLeast (uri : String) (version : Number) (service : Service) : Prop :=
  ∃ snapshot, service.store.get? uri = some snapshot ∧ version.atMost snapshot.version = true

/-- Storing a commit replaces a snapshot by one of the version that was asked for, or not at all. -/
theorem Store.get?_keep_commit (store : Store) (request : HighlightRequest)
    (base : Option Snapshot) (tree : Tree)
    : (store.keep request.uri (request.commit base tree)).1.get? request.uri
        = store.get? request.uri
      ∨ ∃ tokens,
          (store.keep request.uri (request.commit base tree)).1.get? request.uri
          = some ⟨request.version, tokens⟩ := by
  cases kept : (request.commit base tree).snapshot with
  | none => exact .inl (by simp [Store.keep, kept])
  | some snapshot =>
      refine .inr ⟨snapshot.tokens, ?_⟩
      obtain ⟨found, -, rfl⟩ := HighlightRequest.snapshot_of_commit kept
      simp [Store.keep, kept]

/-- The end of a load leaves its document as it was or with the version that was asked for. -/
theorem Move.get?_ofLoad (publishes : Bool) (store : Store) (request : HighlightRequest)
    (base : Option Snapshot) (loaded : Except LoadFault Tree)
    : (Move.ofLoad publishes store request base loaded).store.get? request.uri
        = store.get? request.uri
      ∨ ∃ tokens,
          (Move.ofLoad publishes store request base loaded).store.get? request.uri
          = some ⟨request.version, tokens⟩ := by
  cases loaded with
  | error fault => exact .inl rfl
  | ok tree =>
      have kept := Store.get?_keep_commit store request base tree
      simp only [Move.ofLoad, Move.ofTree]
      split
      next => exact kept
      next =>
        simp only [Move.ofAnswer]
        split <;> exact kept

/-- A turn leaves its document as it was, or closes it. -/
theorem Move.get?_ofTurn (store : Store) (request : Request)
    : (Move.ofTurn store request).store.get? request.uri = store.get? request.uri
      ∨ (Move.ofTurn store request).stage = .ended (.ok (.closed request.uri)) := by
  cases request with
  | close uri => cases found : store.get? uri <;> simp [Move.ofTurn, found, Request.uri]
  | highlight request =>
      cases checked : request.checkVersion (store.get? request.uri) <;>
        simp [Move.ofTurn, checked, Request.uri]

/-- Versions of a document do not get less until it is closed, by cases on the step. -/
theorem AtLeast.step {uri : String} {version : Number} (atLeast : AtLeast uri version service)
    (sound : service.Sound) (stepped : service.step publishes event = some result)
    : Moment.Closes uri ⟨event, result.2, result.1.store⟩ ∨ AtLeast uri version result.1 := by
  obtain ⟨snapshot, present, below⟩ := atLeast
  have unchanged {call : Call} {move : Move} (moves : service.Moves call move)
      (same : call.uri = uri → move.store.get? uri = service.store.get? uri)
      : AtLeast uri version (service.advance call move).1 := by
    refine ⟨snapshot, ?_, below⟩
    by_cases about : call.uri = uri
    · exact (same about).trans present
    · exact (moves.about.others uri (Ne.symm about)).trans present
  cases step_steps stepped with
  | arrive request =>
      exact .inr ⟨snapshot, present, below⟩
  | @start call member waiting free =>
      have moves := sound.moves_start member waiting free
      have named := sound.named call member
      rcases Move.get?_ofTurn service.store call.task with kept | closed
      · exact .inr (unchanged moves fun about => about ▸ named ▸ kept)
      · by_cases about : call.uri = uri
        · refine .inl ⟨call.ticket, ?_⟩
          simp [Service.advance, closed, named, about]
        · exact .inr (unchanged moves fun equal => absurd equal about)
  | @loaded call request base member loading tree =>
      have moves : service.Moves call (.ofLoad publishes service.store request base tree) :=
        sound.moves_loaded member loading tree
      obtain ⟨task, shown, accepted⟩ := sound.loading call member request base loading
      have named : request.uri = call.uri := by
        simpa only [task, Request.uri] using sound.named call member
      rcases Move.get?_ofLoad publishes service.store request base tree with kept | ⟨tokens, stored⟩
      · exact .inr (unchanged moves fun about => about ▸ named ▸ kept)
      · by_cases about : call.uri = uri
        · subst about
          rw [shown, present] at accepted
          have newer := HighlightRequest.newer_of_accepted accepted
          rw [named] at stored
          exact .inr ⟨_, stored, Number.atMost_trans below (Number.atMost_of_not newer)⟩
        · exact .inr (unchanged moves fun equal => absurd equal about)
  | published member publishing outcome =>
      exact .inr (unchanged (sound.moves_published member publishing outcome) fun _ => rfl)
  | leave member ended =>
      exact .inr ⟨snapshot, present, below⟩

-----------------------------------------------------------------------------------------
-- The discipline
-----------------------------------------------------------------------------------------

/-- What a publisher can rely on in a run.

What is handed over at a moment is what should be, while its document is open; no call hands over
twice, and those on one document do so in the order of their arrival; as long as the document is
not closed each answer has a greater version than those before it; when an answer is handed over,
its document is open with just that version; and no call on the document starts until the
publication has ended.
-/
structure Published (moments : List Moment) : Prop where
  exact
    : ∀ before moment after,
        moments = before ++ moment :: after
        → moment.effects.filterMap Effect.handed?
            = (moment.publication? before).toList.map (fun handover => (handover.2, true))
          ∧ moment.handovers = (moment.publication? before).toList
  inOrder
    : (moments.flatMap Moment.handovers).Pairwise fun first second =>
        first.1 ≠ second.1 ∧ (first.2.uri = second.2.uri → first.1 < second.1)
  newer
    : ∀ before first between second after,
        moments = before ++ first :: (between ++ second :: after)
        → ∀ one ∈ first.handovers,
            ∀ other ∈ second.handovers,
              one.2.uri = other.2.uri
              → (∀ moment ∈ between, ¬ moment.Closes one.2.uri)
              → other.2.version.atMost one.2.version = false
  stored
    : ∀ moment ∈ moments,
        ∀ handover ∈ moment.handovers,
          ∃ tokens,
            moment.store.get? handover.2.uri = some ⟨handover.2.version, tokens⟩
  alone
    : ∀ before first between second after,
        moments = before ++ first :: (between ++ second :: after)
        → ∀ handover ∈ first.handovers,
            ∀ ticket request,
              second.event = .start ticket
              → Event.request? ((before ++ first :: between).map Moment.event) ticket
                = some request
              → request.uri = handover.2.uri
              → ∃ moment ∈ between, ∃ result, moment.event = .published handover.1 result

variable {moments before between after : List Moment} {moment first second : Moment}
  {last : Service}

/-- A call that has handed its answer over is at the head of its lane and publishes; it has arrived
before the others of the lane, and its document is open with its version.
-/
theorem Sound.after_handover (sound : service.Sound)
    (stepped : service.step true event = some (next, effects)) {store : Store}
    {handover : Nat × Highlighted} (handed : handover ∈ Moment.handovers ⟨event, effects, store⟩)
    : Publishing handover.2.uri handover.1 next
      ∧ Behind handover.2.uri handover.1 next
      ∧ AtLeast handover.2.uri handover.2.version next
      ∧ ∃ tokens, next.store.get? handover.2.uri = some ⟨handover.2.version, tokens⟩ := by
  obtain ⟨call, member, request, tree, ticketed, event, loading, -, about, -, queue, tokens, store⟩ :=
    sound.handover stepped handed
  obtain ⟨rest, head⟩ := sound.orderly.head_of_running member loading
  have behind := (sound.behind_head head).step sound stepped
  have lane : next.queue.lane call.uri
      = { call with stage := .running (.publishing handover.2) } :: rest := by
    rw [queue, ← ticketed, sound.orderly.lane_advance member head, if_pos rfl]
    rfl
  have present : next.store.get? call.uri = some ⟨handover.2.version, tokens⟩ := by
    rw [store, ByUri.get?_set, if_pos rfl]
  rw [about]
  refine ⟨⟨_, rest, handover.2, lane, ticketed, rfl⟩, ticketed ▸ behind, ?_, tokens, present⟩
  refine ⟨_, present, ?_⟩
  rw [Number.atMost_iff]
  exact .inr ⟨rfl, Rat.le_refl⟩

namespace Timeline

/-- Two moments of a run: the service before and after each of them. -/
theorem split_twice
    (timeline : Timeline publishes .initial (before ++ first :: (between ++ second :: after)) last)
    : ∃ earlier afterFirst later afterSecond : Service,
        earlier.Sound
        ∧ earlier.step publishes first.event = some (afterFirst, first.effects)
        ∧ Timeline publishes afterFirst between later
        ∧ Numbered ((before ++ first :: between).map Moment.event) later
        ∧ later.step publishes second.event = some (afterSecond, second.effects) := by
  rw [← List.cons_append, ← List.append_assoc] at timeline
  obtain ⟨later, afterSecond, upTo, secondStep, -, -⟩ := timeline.split
  obtain ⟨earlier, afterFirst, reached, firstStep, -, middle⟩ := upTo.split
  exact ⟨earlier, afterFirst, later, afterSecond, reached.sound .initial, firstStep, middle,
    upTo.numbered, secondStep⟩

/-- What a call behind others on a document hands over, it hands over after them. -/
theorem behind_later (timeline : Timeline true service moments last) (sound : service.Sound)
    {uri : String} {ticket : Nat} (behind : Behind uri ticket service)
    : ∀ moment ∈ moments,
        ∀ handover ∈ moment.handovers, handover.2.uri = uri → ticket ≤ handover.1 := by
  induction timeline with
  | now => simp
  | @step service event next effects moments last stepped later ih =>
      refine List.forall_mem_cons.mpr ⟨?_, ih (sound.step stepped) (behind.step sound stepped)⟩
      rintro handover handed rfl
      obtain ⟨call, member, request, tree, ticketed, -, loading, -, about, -⟩ :=
        sound.handover stepped handed
      rw [← ticketed]
      exact behind.least call
        (Queue.mem_lane.mpr ⟨member, about.symm, by simp [loading, Stage.isOver]⟩)

/-- Calls on one document hand over in the order of their arrival, by induction over the run. -/
theorem handed_in_order (timeline : Timeline true service moments last) (sound : service.Sound)
    : moments.Pairwise fun first second =>
        ∀ one ∈ first.handovers,
          ∀ other ∈ second.handovers, one.2.uri = other.2.uri → one.1 ≤ other.1 := by
  induction timeline with
  | now => exact .nil
  | @step service event next effects moments last stepped later ih =>
      refine List.pairwise_cons.mpr ⟨?_, ih (sound.step stepped)⟩
      intro second member one handed other alsoHanded same
      have behind := (sound.after_handover stepped handed).2.1
      exact later.behind_later (sound.step stepped) behind second member other alsoHanded same.symm

/-- What is handed over at a moment is that of the call whose load ends. -/
theorem loaded_of_handed (timeline : Timeline true .initial moments last) {moment : Moment}
    (member : moment ∈ moments) {handover : Nat × Highlighted}
    (handed : handover ∈ moment.handovers)
    : ∃ tree, moment.event = .loaded handover.1 tree := by
  obtain ⟨before, after, rfl⟩ := List.append_of_mem member
  obtain ⟨middle, next, reached, stepped, -, -⟩ := timeline.split
  obtain ⟨call, -, request, tree, -, event, -⟩ :=
    (reached.sound .initial).handover stepped handed
  exact ⟨tree, event⟩

/-- No call hands over twice, since its load ends once. -/
theorem handed_once (timeline : Timeline true .initial moments last)
    : moments.Pairwise fun first second =>
        ∀ one ∈ first.handovers, ∀ other ∈ second.handovers, one.1 ≠ other.1 := by
  have ordered := List.pairwise_map.mp (events_of_run timeline.run)
  refine ordered.imp_of_mem fun {first second} isFirst isSecond precedes => ?_
  intro one handed other alsoHanded same
  obtain ⟨tree, event⟩ := timeline.loaded_of_handed isFirst handed
  obtain ⟨again, later⟩ := timeline.loaded_of_handed isSecond alsoHanded
  have fewer := precedes one.1 (by rw [event]; rfl) (by rw [later, same]; rfl)
  rw [event, later] at fewer
  exact Nat.lt_irrefl _ fewer

/-- Every run keeps the discipline. -/
theorem published (timeline : Timeline true .initial moments last) : Published moments where
  exact := by
    rintro before moment after rfl
    obtain ⟨middle, next, reached, stepped, -, -⟩ := timeline.split
    exact (reached.sound .initial).handed_eq reached.numbered reached.storeAfter stepped
  inOrder := by
    refine List.pairwise_flatMap.mpr ⟨fun moment member => ?_, ?_⟩
    · obtain ⟨before, after, rfl⟩ := List.append_of_mem member
      obtain ⟨middle, next, reached, stepped, -, -⟩ := timeline.split
      rw [((reached.sound .initial).handed_eq reached.numbered reached.storeAfter stepped).2]
      cases moment.publication? before with
      | none => exact .nil
      | some handover => exact List.pairwise_singleton _ _
    · refine ((timeline.handed_in_order .initial).and timeline.handed_once).imp ?_
      rintro first second ⟨ordered, distinct⟩ one handed other alsoHanded
      refine ⟨distinct one handed other alsoHanded, fun same => ?_⟩
      exact Nat.lt_of_le_of_ne (ordered one handed other alsoHanded same)
        (distinct one handed other alsoHanded)
  newer := by
    rintro before first between second after rfl one handed other alsoHanded same notClosed
    obtain ⟨earlier, afterFirst, later, afterSecond, sound, firstStep, middle, -, secondStep⟩ :=
      timeline.split_twice
    have atLeast := (sound.after_handover firstStep handed).2.2.1
    have soundAfter := sound.step firstStep
    rcases middle.keeps (AtLeast one.2.uri one.2.version) (Moment.Closes one.2.uri)
      (fun _ _ _ _ sound atLeast stepped => atLeast.step sound stepped) soundAfter atLeast
      with ⟨moment, member, closes⟩ | ⟨snapshot, present, below⟩
    · exact absurd closes (notClosed moment member)
    · obtain ⟨call, -, request, -, -, -, -, accepted, about, version, -⟩ :=
        (middle.sound soundAfter).handover secondStep alsoHanded
      rw [← about, ← same, present] at accepted
      have newer := HighlightRequest.newer_of_accepted accepted
      rw [version, Bool.eq_false_iff]
      intro notNewer
      rw [Number.atMost_trans notNewer below] at newer
      contradiction
  stored := by
    intro moment member handover handed
    obtain ⟨before, after, rfl⟩ := List.append_of_mem member
    obtain ⟨middle, next, reached, stepped, store, -⟩ := timeline.split
    rw [store]
    exact ((reached.sound .initial).after_handover stepped handed).2.2.2
  alone := by
    rintro before first between second after rfl handover handed ticket request event arrived about
    obtain ⟨earlier, afterFirst, later, afterSecond, sound, firstStep, middle, numbered,
      secondStep⟩ := timeline.split_twice
    have soundAfter := sound.step firstStep
    rcases middle.keeps (Publishing handover.2.uri handover.1)
      (fun moment => ∃ result, moment.event = .published handover.1 result)
      (fun _ _ _ _ sound publishing stepped => publishing.step sound stepped)
      soundAfter (sound.after_handover firstStep handed).1 with ended | publishing
    · exact ended
    · rw [event] at secondStep
      obtain ⟨call, member, rfl, other⟩ :=
        publishing.starts_other (middle.sound soundAfter) secondStep
      have same := (numbered.tasks call member).symm.trans arrived
      have named := (middle.sound soundAfter).named call member
      rw [Option.some.inj same, about] at named
      exact absurd named.symm other

end Timeline

/-- In every run with a publisher, whatever its publications return, what goes to it keeps the
discipline: the run is one of moments, at each of which the answers go to it that should.
-/
theorem published_of_run {events : List Event}
    (ran : Service.run true .initial events = some (last, effects))
    : ∃ moments,
        Timeline true .initial moments last
        ∧ moments.map Moment.event = events
        ∧ moments.flatMap Moment.effects = effects
        ∧ Published moments := by
  obtain ⟨moments, timeline, happened, told⟩ := exists_timeline ran
  exact ⟨moments, timeline, happened, told, timeline.published⟩

/-- A publication fails while a close of its document and a highlight of another one have arrived.
The document is closed then, and highlighted again.
-/
def republished : List Event :=
  [.arrive (.highlight ⟨"main.cpp", .ofInt 1, "main.json"⟩), .start 0,
    .loaded 0 (.ok (.ofMacro 2 0 3)), .arrive (.close "main.cpp"),
    .arrive (.highlight ⟨"other.cpp", .ofInt 1, "other.json"⟩), .start 2,
    .loaded 2 (.ok (.ofMacro 0 4 9)), .published 0 (.error "refused"), .start 1, .leave 0,
    .published 2 (.ok ()), .leave 1, .arrive (.highlight ⟨"main.cpp", .ofInt 1, "main.json"⟩),
    .start 3, .loaded 3 (.ok (.ofMacro 2 0 3)), .leave 2]

/-- Three answers go to that publisher, of the first document before and after its close. -/
theorem published_of_run_republished
    : ∃ service effects moments,
        Service.run true .initial republished = some (service, effects)
        ∧ Timeline true .initial moments service
        ∧ Published moments
        ∧ moments.flatMap Moment.effects = effects
        ∧ (effects.filterMap Effect.handed?).map (fun handed => (handed.1.uri, handed.2))
          = [("main.cpp", true), ("other.cpp", true), ("main.cpp", true)] := by
  have runs
      : (Service.run true .initial republished).any (fun result =>
          (result.2.filterMap Effect.handed?).map (fun handed => (handed.1.uri, handed.2))
            = [("main.cpp", true), ("other.cpp", true), ("main.cpp", true)]) = true := by
    cbv
  obtain ⟨⟨service, effects⟩, ran, handed⟩ := (Option.any_eq_true _ _).mp runs
  obtain ⟨moments, timeline, _, told, published⟩ := published_of_run ran
  exact ⟨service, effects, moments, ran, timeline, published, told, of_decide_eq_true handed⟩

end Service

end Highlighter
