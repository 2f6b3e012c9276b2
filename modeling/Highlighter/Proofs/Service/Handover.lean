import Highlighter.Proofs.Service.Returns
import Highlighter.Service.Timeline

/-! What is handed to the publisher, and when. It is what a highlight's tree and its document make
necessary when the load of the tree ends, and nothing else ever is. The highlight publishes then,
and its document is open with the version that is published.
-/

namespace Highlighter

-----------------------------------------------------------------------------------------
-- Versions
-----------------------------------------------------------------------------------------

namespace Number

theorem atMost_iff {a b : Number}
    : a.atMost b = true ↔ a.rank.1 < b.rank.1 ∨ (a.rank.1 = b.rank.1 ∧ a.rank.2 ≤ b.rank.2) := by
  simp [atMost]

theorem atMost_trans {a b c : Number} (first : a.atMost b = true) (second : b.atMost c = true)
    : a.atMost c = true := by
  rw [atMost_iff] at *
  rcases first with less | ⟨same, values⟩
  · rcases second with more | ⟨also, _⟩
    · exact .inl (Int.lt_trans less more)
    · exact .inl (also ▸ less)
  · rcases second with more | ⟨also, others⟩
    · exact .inl (same ▸ more)
    · exact .inr ⟨same.trans also, Rat.le_trans values others⟩

theorem atMost_of_not {a b : Number} (above : b.atMost a = false) : a.atMost b = true := by
  rw [Bool.eq_false_iff, Ne, atMost_iff, not_or, not_and_or] at above
  rw [atMost_iff]
  rcases Int.lt_trichotomy a.rank.1 b.rank.1 with less | same | more
  · exact .inl less
  · refine .inr ⟨same, ?_⟩
    exact Rat.le_total.resolve_right (above.2.resolve_left fun differ => differ same.symm)
  · exact absurd more above.1

end Number

/-- A version that a document accepts is greater than the one it has. -/
theorem HighlightRequest.newer_of_accepted {request : HighlightRequest} {snapshot : Snapshot}
    (accepted : request.checkVersion (some snapshot) = .ok ())
    : request.version.atMost snapshot.version = false := by
  unfold checkVersion at accepted
  simp only at accepted
  split at accepted
  · contradiction
  next newer => exact Bool.eq_false_iff.mpr newer

-----------------------------------------------------------------------------------------
-- What the end of a load hands over
-----------------------------------------------------------------------------------------

namespace HighlightRequest

variable {request : HighlightRequest} {base : Option Snapshot}

/-- What should be handed over is the answer of the commit, if that has one and changes lines. -/
theorem publication?_ok (accepted : request.checkVersion base = .ok ()) (tree : Tree)
    : request.publication? base (.ok tree)
      = match (request.commit base tree).answer with
        | .ok answer => if answer.lines.isEmpty then none else some answer
        | .error _ => none := by
  cases request.commits base tree with
  | endless lost same =>
      simp [publication?, accepted, lost, same, Except.toOption]
  | unsorted highlighted mixed same =>
      simp [publication?, accepted, highlighted, mixed, same, Except.toOption]
  | overflow highlighted changed wide same =>
      simp [publication?, accepted, highlighted, changed, wide, same, Except.toOption]
  | answered highlighted changed lined same =>
      simp [publication?, accepted, highlighted, changed, lined, same, Except.toOption]

/-- A commit with an answer has a snapshot of the same version. -/
theorem commit_of_answer {tree : Tree} {answer : Highlighted}
    (answered : (request.commit base tree).answer = .ok answer)
    : (∃ tokens, (request.commit base tree).snapshot = some ⟨request.version, tokens⟩)
      ∧ answer.uri = request.uri
      ∧ answer.version = request.version := by
  cases request.commits base tree with
  | endless _ same | unsorted _ _ same | overflow _ _ _ same =>
      rw [same] at answered
      contradiction
  | answered _ _ _ same =>
      rw [same] at answered ⊢
      rw [← Except.ok.inj answered]
      exact ⟨⟨_, rfl⟩, rfl, rfl⟩

end HighlightRequest

/-- Warnings and stored snapshots hand nothing over. -/
theorem Effect.handed_keep (store : Store) (uri : String) (commit : Commit)
    : (commit.diagnostics.map (Effect.warned uri) ++ (store.keep uri commit).2).filterMap
        Effect.handed? = [] := by
  cases kept : commit.snapshot <;> simp [Store.keep, kept, handed?]

/-- The end of a load hands nothing over, or what it should: then the document is open with that
version, and the publication is waited for.
-/
theorem Move.ofLoad_publication (store : Store) {request : HighlightRequest}
    {base : Option Snapshot} (accepted : request.checkVersion base = .ok ())
    (loaded : Except LoadFault Tree)
    : (ofLoad true store request base loaded).effects.filterMap Effect.handed?
        = (request.publication? base loaded).toList.map (·, true)
      ∧ ∀ answer,
          request.publication? base loaded = some answer
          → answer.uri = request.uri
            ∧ answer.version = request.version
            ∧ (ofLoad true store request base loaded).stage = .running (.publishing answer)
            ∧ ∃ tokens,
                (ofLoad true store request base loaded).store
                = store.set request.uri ⟨request.version, tokens⟩ := by
  cases loaded with
  | error fault => simp [ofLoad, HighlightRequest.publication?, Except.toOption]
  | ok tree =>
      rw [HighlightRequest.publication?_ok accepted]
      have quiet := Effect.handed_keep store request.uri (request.commit base tree)
      cases answered : (request.commit base tree).answer with
      | error failure => simp only [ofLoad, ofTree, answered, quiet]; simp
      | ok answer =>
          obtain ⟨⟨tokens, kept⟩, named, versioned⟩ := HighlightRequest.commit_of_answer answered
          simp only [Store.keep, kept] at quiet
          rw [ofLoad_of_answer true store kept answered]
          cases unchanged : answer.lines.isEmpty with
          | true =>
              simp only [unchanged, Bool.not_true, Bool.and_false, Bool.false_eq_true, if_false,
                if_true, quiet]
              simp
          | false =>
              simp only [unchanged, Bool.not_false, Bool.and_true, if_true, Bool.false_eq_true,
                if_false, List.filterMap_append, quiet, Option.some.injEq]
              refine ⟨rfl, ?_⟩
              rintro _ rfl
              exact ⟨named, versioned, rfl, tokens, rfl⟩

-----------------------------------------------------------------------------------------
-- Moments of a run
-----------------------------------------------------------------------------------------

namespace Service

variable {publishes : Bool} {service last : Service} {moments before after : List Moment}
  {moment : Moment}

/-- A run goes through moments with its events and effects, by induction over the events. -/
theorem exists_timeline {events : List Event} {effects : List Effect}
    (ran : service.run publishes events = some (last, effects))
    : ∃ moments,
        Timeline publishes service moments last
        ∧ moments.map Moment.event = events
        ∧ moments.flatMap Moment.effects = effects := by
  induction events generalizing service effects with
  | nil =>
      obtain ⟨rfl, rfl⟩ := Prod.mk.inj (Option.some.inj ran)
      exact ⟨[], .now, rfl, rfl⟩
  | cons event rest ih =>
      obtain ⟨⟨next, first⟩, stepped, continued⟩ := Option.bind_eq_some_iff.mp ran
      obtain ⟨⟨final, others⟩, ran', result⟩ := Option.bind_eq_some_iff.mp continued
      obtain ⟨rfl, rfl⟩ := Prod.mk.inj (Option.some.inj result)
      obtain ⟨moments, timeline, happened, told⟩ := ih ran'
      exact ⟨_, .step stepped timeline, by rw [List.map_cons, happened],
        by rw [List.flatMap_cons, told]⟩

namespace Timeline

/-- Moments are a run of their events. -/
theorem run (timeline : Timeline publishes service moments last)
    : service.run publishes (moments.map Moment.event)
      = some (last, moments.flatMap Moment.effects) := by
  induction timeline with
  | now => rfl
  | step stepped _ ih => simp [Service.run, stepped, ih]

/-- At every moment the service has taken a step, from where the moments before it led. -/
theorem split (timeline : Timeline publishes service (before ++ moment :: after) last)
    : ∃ middle next,
        Timeline publishes service before middle
        ∧ middle.step publishes moment.event = some (next, moment.effects)
        ∧ moment.store = next.store
        ∧ Timeline publishes next after last := by
  induction before generalizing service with
  | nil =>
      cases timeline with
      | step stepped later => exact ⟨service, _, .now, stepped, rfl, later⟩
  | cons first rest ih =>
      cases timeline with
      | step stepped later =>
          obtain ⟨middle, next, reached, here, open', beyond⟩ := ih later
          exact ⟨middle, next, .step stepped reached, here, open', beyond⟩

theorem sound (timeline : Timeline publishes service moments last) (sound : service.Sound)
    : last.Sound := by
  induction timeline with
  | now => exact sound
  | step stepped _ ih => exact ih (sound.step stepped)

/-- The last moment tells which documents are open. -/
theorem storeAfter (timeline : Timeline publishes .initial moments last)
    : Moment.storeAfter moments = last.store := by
  rcases List.eq_nil_or_concat moments with rfl | ⟨front, latest, rfl⟩
  · cases timeline
    rfl
  · rw [List.concat_eq_append] at timeline ⊢
    obtain ⟨middle, next, _, _, open', rest⟩ := timeline.split
    cases rest
    simp [Moment.storeAfter, open']

/-- What holds at some service and is kept by every step, unless that is a way out, still holds
later, if no moment in between was a way out.
-/
theorem keeps (holds : Service → Prop) (isExit : Moment → Prop)
    (kept
      : ∀ service event next effects,
          service.Sound
          → holds service
          → service.step publishes event = some (next, effects)
          → isExit ⟨event, effects, next.store⟩ ∨ holds next)
    (timeline : Timeline publishes service moments last) (sound : service.Sound)
    (now : holds service)
    : (∃ exit ∈ moments, isExit exit) ∨ holds last := by
  induction timeline with
  | now => exact .inr now
  | step stepped later ih =>
      rcases kept _ _ _ _ sound now stepped with exits | still
      · exact .inl ⟨_, List.mem_cons_self, exits⟩
      · rcases ih (sound.step stepped) still with ⟨exit, member, exits⟩ | reached
        · exact .inl ⟨exit, List.mem_cons_of_mem _ member, exits⟩
        · exact .inr reached

end Timeline

-----------------------------------------------------------------------------------------
-- Tickets and requests
-----------------------------------------------------------------------------------------

/-- Calls are the requests that have arrived, each with the ticket of its arrival. -/
structure Numbered (events : List Event) (service : Service) : Prop where
  counted : service.queue.next = (Event.requests events).length
  tasks
    : ∀ call ∈ service.queue.jobs, Event.request? events call.ticket = some call.task

theorem Event.request?_append {events : List Event} {ticket : Nat} {request : Request}
    (arrived : Event.request? events ticket = some request) (more : List Event)
    : Event.request? (events ++ more) ticket = some request := by
  have known : ticket < (events.filterMap Event.arrival?).length :=
    (List.getElem?_eq_some_iff.mp arrived).1
  rw [Event.request?, Event.requests, List.filterMap_append, List.getElem?_append_left known]
  exact arrived

theorem Numbered.advance {events : List Event} (numbered : Numbered events service)
    {event : Event} (quiet : event.arrival? = none) (call : Call) (move : Move)
    : Numbered (events ++ [event]) (service.advance call move).1 := by
  refine ⟨?_, fun other present => ?_⟩
  · rw [Event.requests, List.filterMap_append, List.filterMap_cons, quiet]
    simpa [Service.advance, Queue.advance, Event.requests] using numbered.counted
  · obtain ⟨old, kept, rfl⟩ := Queue.mem_advance present
    have known := Event.request?_append (numbered.tasks old kept) [event]
    split <;> exact known

theorem Numbered.step {events : List Event} (numbered : Numbered events service) {event : Event}
    {result : Service × List Effect} (stepped : service.step publishes event = some result)
    : Numbered (events ++ [event]) result.1 := by
  cases step_steps stepped with
  | arrive request =>
      refine ⟨?_, fun call present => ?_⟩
      · rw [Event.requests, List.filterMap_append, List.length_append, ← Event.requests,
          ← numbered.counted]
        rfl
      · rcases List.mem_append.mp present with earlier | newest
        · exact Event.request?_append (numbered.tasks call earlier) _
        · rw [List.mem_singleton.mp newest]
          simp [Event.request?, Event.requests, List.filterMap_append, numbered.counted,
            Event.arrival?]
  | start _ _ _ => exact numbered.advance rfl _ _
  | loaded _ _ _ => exact numbered.advance rfl _ _
  | published _ _ _ => exact numbered.advance rfl _ _
  | @leave call answer member ended =>
      refine ⟨?_, fun other present => ?_⟩
      · simpa [Event.requests, List.filterMap_cons, Event.arrival?, Queue.leave] using
          numbered.counted
      · exact Event.request?_append (numbered.tasks other (List.mem_of_mem_filter present)) _

/-- After every run calls are numbered, by its steps. -/
theorem Timeline.numbered (timeline : Timeline publishes .initial moments last)
    : Numbered (moments.map Moment.event) last := by
  refine (Sound.of_run (fun events _ service => Numbered events service) ?_ ?_ timeline.run).2
  · exact ⟨rfl, by simp [Service.initial, Queue.empty]⟩
  · exact fun events effects service event result _ numbered stepped => numbered.step stepped

-----------------------------------------------------------------------------------------
-- Handing over
-----------------------------------------------------------------------------------------

/-- A settlement hands nothing over. -/
theorem handed_advance (service : Service) (call : Call) (move : Move)
    : (service.advance call move).2.filterMap Effect.handed?
      = move.effects.filterMap Effect.handed? := by
  rw [Service.advance, List.filterMap_append]
  split <;> simp [Effect.handed?]

theorem handed_ofTurn (store : Store) (request : Request)
    : (Move.ofTurn store request).effects.filterMap Effect.handed? = [] := by
  cases request with
  | close uri => cases found : store.get? uri <;> simp [Move.ofTurn, found, Effect.handed?]
  | highlight request =>
      cases checked : request.checkVersion (store.get? request.uri) <;>
        simp [Move.ofTurn, checked]

/-- Nothing is handed over but by the end of a load. -/
theorem handed_or_loaded {event : Event} {result : Service × List Effect}
    (stepped : service.step publishes event = some result)
    : (result.2.filterMap Effect.handed? = [] ∧ ∀ ticket tree, event ≠ .loaded ticket tree)
      ∨ ∃ call request base tree,
          call ∈ service.queue.jobs
          ∧ call.stage = .running (.loading request base)
          ∧ event = .loaded call.ticket tree
          ∧ result
            = service.advance call (.ofLoad publishes service.store request base tree) := by
  cases step_steps stepped with
  | arrive request => exact .inl ⟨rfl, by simp⟩
  | @start call member waiting free =>
      refine .inl ⟨?_, by simp⟩
      rw [handed_advance, handed_ofTurn]
  | @loaded call request base member loading tree =>
      exact .inr ⟨call, request, base, tree, member, loading, rfl, rfl⟩
  | @published call answer member publishing outcome =>
      refine .inl ⟨?_, by simp⟩
      rw [handed_advance]
      rfl
  | leave member ended => exact .inl ⟨rfl, by simp⟩

/-- What is handed over at a moment is what should be. -/
theorem Sound.handed_eq (sound : service.Sound)
    (numbered : Numbered (before.map Moment.event) service)
    (stored : Moment.storeAfter before = service.store) {next : Service}
    (stepped : service.step true moment.event = some (next, moment.effects))
    : moment.effects.filterMap Effect.handed?
        = (moment.publication? before).toList.map (fun handover => (handover.2, true))
      ∧ moment.handovers = (moment.publication? before).toList := by
  rcases handed_or_loaded stepped with
    ⟨nothing, different⟩ | ⟨call, request, base, tree, member, loading, event, result⟩
  · have noPublication : moment.publication? before = none := by
      unfold Moment.publication?
      split
      next ticket tree event => exact absurd event (different ticket tree)
      next => rfl
    rw [noPublication, nothing, Moment.handovers, nothing]
    refine ⟨rfl, ?_⟩
    split <;> rfl
  · obtain ⟨task, same, accepted⟩ := sound.loading call member request base loading
    have named : request.uri = call.uri := by
      simpa only [task, Request.uri] using sound.named call member
    have told
        : moment.effects
          = (service.advance call (.ofLoad true service.store request base tree)).2 :=
      congrArg Prod.snd result
    have handed := (Move.ofLoad_publication service.store accepted tree).1
    have publication
        : moment.publication? before
          = (request.publication? base tree).map fun answer => (call.ticket, answer) := by
      have known := numbered.tasks call member
      rw [task] at known
      rw [Moment.publication?, event]
      simp only [known, stored, named, ← same]
    rw [Moment.handovers, event, Event.ticket?, told, handed_advance, handed, publication]
    cases request.publication? base tree <;> exact ⟨rfl, rfl⟩

/-- The call that hands an answer over waited for its tree. It publishes then, and its document is
open with the version of the answer.
-/
theorem Sound.handover (sound : service.Sound) {event : Event} {next : Service}
    {effects : List Effect} (stepped : service.step true event = some (next, effects))
    {store : Store} {ticket : Nat} {answer : Highlighted}
    (handed : (ticket, answer) ∈ Moment.handovers ⟨event, effects, store⟩)
    : ∃ call ∈ service.queue.jobs,
        ∃ request tree,
          call.ticket = ticket
          ∧ event = .loaded ticket tree
          ∧ call.stage = .running (.loading request (service.store.get? call.uri))
          ∧ request.checkVersion (service.store.get? call.uri) = .ok ()
          ∧ answer.uri = call.uri
          ∧ answer.version = request.version
          ∧ next.queue = service.queue.advance ticket (.running (.publishing answer))
          ∧ ∃ tokens, next.store = service.store.set call.uri ⟨answer.version, tokens⟩ := by
  rcases handed_or_loaded stepped with
    ⟨nothing, _⟩ | ⟨call, request, base, tree, member, loading, rfl, result⟩
  · rw [Moment.handovers, nothing] at handed
    split at handed <;> contradiction
  · obtain ⟨task, same, accepted⟩ := sound.loading call member request base loading
    have named : request.uri = call.uri := by
      simpa only [task, Request.uri] using sound.named call member
    obtain ⟨gives, publishing⟩ := Move.ofLoad_publication service.store accepted tree
    have told
        : effects = (service.advance call (.ofLoad true service.store request base tree)).2 :=
      congrArg Prod.snd result
    have reached
        : next = (service.advance call (.ofLoad true service.store request base tree)).1 :=
      congrArg Prod.fst result
    rw [Moment.handovers, Event.ticket?, told, handed_advance, gives] at handed
    cases publication : request.publication? base tree with
    | none => simp [publication] at handed
    | some given =>
        obtain ⟨about, version, stage, tokens, kept⟩ := publishing given publication
        simp only [publication, Option.toList_some, List.map_cons, List.map_nil,
          List.mem_singleton, Prod.mk.injEq] at handed
        obtain ⟨rfl, rfl⟩ := handed
        refine ⟨call, member, request, tree, rfl, rfl, same ▸ loading, same ▸ accepted,
          about.trans named, version, ?_, tokens, ?_⟩
        · rw [reached, Service.advance, stage]
        · rw [reached, Service.advance, kept, named, version]

end Service

end Highlighter
