import Highlighter.Proofs.Service.Serializability
import Highlighter.Service.Account

/-! Documents are separate, and a close wipes one clean. What a call does, answers and leaves of its
document depends on the calls on that document since it was last closed, with their trees and their
publications, and on nothing else: neither on what was there before nor on other documents.
-/

namespace Highlighter

-----------------------------------------------------------------------------------------
-- Accounts of effects
-----------------------------------------------------------------------------------------

namespace Account

variable {uri : String}

/-- Nothing but work on the document is noted. -/
theorem note_other {effect : Effect} (other : (effect.uri = uri && effect.isWork) = false)
    (account : Account)
    : note uri account effect = account := by
  unfold note
  split
  next about =>
    cases effect with
    | returned _ _ _ => rfl
    | warned _ _ | stored _ _ | removed _ | handed _ _ | settled _ _ _ =>
        simp [about, Effect.isWork] at other
  next => rfl

theorem foldl_note_workOn (effects : List Effect) (account : Account)
    : (Effect.workOn uri effects).foldl (note uri) account = effects.foldl (note uri) account := by
  induction effects generalizing account with
  | nil => rfl
  | cons effect rest ih =>
      rw [Effect.workOn, List.filter_cons, List.foldl_cons]
      cases noted : (effect.uri = uri && effect.isWork) with
      | true => exact ih _
      | false => rw [note_other noted]; exact ih _

/-- Performances that are over stay as they are. -/
theorem performed_prefix (effects : List Effect) (account : Account)
    : account.performed <+: (effects.foldl (note uri) account).performed := by
  induction effects generalizing account with
  | nil => exact List.prefix_rfl
  | cons effect rest ih =>
      refine List.IsPrefix.trans ?_ (ih _)
      unfold note
      split
      · split
        · exact List.prefix_append _ _
        · exact List.prefix_rfl
        · exact List.prefix_rfl
      · exact List.prefix_rfl

/-- Work on a document that settles no call is done in the order in which it is noted. -/
theorem foldl_note_work {effects : List Effect}
    (own : ∀ effect ∈ effects, effect.uri = uri ∧ effect.isWork = true)
    (unsettled : Effect.settlements uri effects = []) (account : Account)
    : effects.foldl (note uri) account
      = ⟨account.performed, account.done ++ effects,
          effects.foldl (Effect.replay uri) account.content⟩ := by
  induction effects generalizing account with
  | nil => simp
  | cons effect rest ih =>
      obtain ⟨⟨about, working⟩, others⟩ := List.forall_mem_cons.mp own
      obtain ⟨going, later⟩ : effect.settled? uri = none ∧ Effect.settlements uri rest = [] := by
        have quiet := List.forall_mem_cons.mp (List.filterMap_eq_nil_iff.mp unsettled)
        exact ⟨quiet.1, List.filterMap_eq_nil_iff.mpr quiet.2⟩
      have noted
          : note uri account effect
            = ⟨account.performed, account.done ++ [effect], effect.replay uri account.content⟩ := by
        cases effect with
        | settled other ticket answer => simp_all [Effect.settled?, Effect.uri]
        | returned _ _ _ => contradiction
        | warned _ _ | stored _ _ | removed _ | handed _ _ => exact if_pos about
      rw [List.foldl_cons, noted, ih others later]
      simp

end Account

-----------------------------------------------------------------------------------------
-- Calls that are performed in turn
-----------------------------------------------------------------------------------------

theorem Outcomes.Alike.refl (outcomes : Outcomes) (calls : List (Nat × Request))
    : List.Forall₂ (outcomes.Alike outcomes) calls calls :=
  List.forall₂_same.mpr fun _ _ => ⟨rfl, rfl, rfl⟩

namespace Store

variable {outcomes others : Outcomes} {publishes : Bool} {uri : String}
  {calls twins : List (Nat × Request)}

/-- Performing calls on a document in turn is accounted for call by call. -/
theorem account_performAll (outcomes : Outcomes) (publishes : Bool)
    (own : ∀ call ∈ calls, call.2.uri = uri) (store : Store) (earlier : List (Nat × Performance))
    : (performAll outcomes publishes store calls).2.foldl (Account.note uri)
        ⟨earlier, [], store.get? uri⟩
      = ⟨earlier ++ store.performances outcomes publishes calls, [],
          (performAll outcomes publishes store calls).1.get? uri⟩ := by
  induction calls generalizing store earlier with
  | nil => simp [performAll, performances]
  | cons call rest ih =>
      obtain ⟨ticket, request⟩ := call
      obtain ⟨named, later⟩ := List.forall_mem_cons.mp own
      have about := about_perform (outcomes.surroundings publishes ticket) store request .waiting
      rcases performed : store.perform (outcomes.surroundings publishes ticket) request with
        ⟨kept, effects, answer⟩
      rw [performed, show request.uri = uri from named] at about
      obtain ⟨work, unsettled, -, content⟩ := about
      have settles
          : Account.note uri ⟨earlier, effects, kept.get? uri⟩ (.settled uri ticket answer)
            = ⟨earlier ++ [(ticket, ⟨effects, answer, kept.get? uri⟩)], [], kept.get? uri⟩ :=
        if_pos rfl
      simp only [performAll_cons performed, performances, performed, List.foldl_append,
        List.foldl_cons, Account.foldl_note_work work (unsettled uri), List.nil_append,
        show request.uri = uri from named]
      rw [show effects.foldl (Effect.replay uri) (store.get? uri) = kept.get? uri from content,
        settles, ih later, List.append_assoc]
      rfl

theorem tickets_performances (outcomes : Outcomes) (publishes : Bool) (store : Store)
    (calls : List (Nat × Request))
    : (store.performances outcomes publishes calls).map (·.1) = calls.map (·.1) := by
  induction calls generalizing store with
  | nil => rfl
  | cons call rest ih => simp [performances, ih]

/-- Performing more calls goes on where the first ones end, by induction over these. -/
theorem performances_append (outcomes : Outcomes) (publishes : Bool) (store : Store)
    (first later : List (Nat × Request))
    : store.performances outcomes publishes (first ++ later)
      = store.performances outcomes publishes first
        ++ (performAll outcomes publishes store first).1.performances outcomes publishes later := by
  induction first generalizing store with
  | nil => rfl
  | cons call rest ih => simp [performances, performAll, ih]

/-- Calls that are alike do the same on a document, whatever others are open. -/
theorem performances_alike (publishes : Bool) (alike : List.Forall₂ (outcomes.Alike others) calls twins)
    (own : ∀ call ∈ calls, call.2.uri = uri) {store other : Store}
    (same : store.get? uri = other.get? uri)
    : (store.performances outcomes publishes calls).map (·.2)
        = (other.performances others publishes twins).map (·.2)
      ∧ (performAll outcomes publishes store calls).1.get? uri
        = (performAll others publishes other twins).1.get? uri := by
  induction alike generalizing store other with
  | nil => exact ⟨rfl, same⟩
  | @cons call twin rest later pair _ ih =>
      obtain ⟨ticket, request⟩ := call
      obtain ⟨number, twin⟩ := twin
      obtain ⟨rfl, load, publication⟩ := pair
      obtain ⟨rfl, remaining⟩ := List.forall_mem_cons.mp own
      have surrounded
          : others.surroundings publishes number = outcomes.surroundings publishes ticket := by
        simp only [Outcomes.surroundings, ← load, ← publication]
      have congr := perform_congr (outcomes.surroundings publishes ticket) same
      obtain ⟨performances, content⟩ := ih remaining congr.2
      simp only [Store.performances, performAll, surrounded, List.map_cons, congr.2, ← congr.1,
        performances]
      exact ⟨trivial, content⟩

/-- Each call has its performance, in the order of the calls. -/
theorem mem_performances (outcomes : Outcomes) (publishes : Bool) (store : Store)
    (calls : List (Nat × Request))
    : List.Forall₂
        (fun call performance =>
          (call.1, performance) ∈ store.performances outcomes publishes calls)
        calls ((store.performances outcomes publishes calls).map (·.2)) := by
  induction calls generalizing store with
  | nil => exact .nil
  | cons call rest ih =>
      refine .cons List.mem_cons_self ((ih _).imp fun _ _ member => ?_)
      exact List.mem_cons_of_mem _ member

/-- Calls that are performed in turn settle on the answers of their performances. -/
theorem settlements_performances (outcomes : Outcomes) (publishes : Bool)
    (own : ∀ call ∈ calls, call.2.uri = uri) (store : Store)
    : Effect.settlements uri (performAll outcomes publishes store calls).2
      = (store.performances outcomes publishes calls).map fun entry =>
          (entry.1, entry.2.answer) := by
  induction calls generalizing store with
  | nil => rfl
  | cons call rest ih =>
      obtain ⟨named, later⟩ := List.forall_mem_cons.mp own
      have quiet :=
        (about_perform (outcomes.surroundings publishes call.1) store call.2 .waiting).unsettled uri
      simp only [Effect.settlements] at quiet ih
      simp [performAll, performances, Effect.settlements, Effect.settled?, quiet, named, ih later]

end Store

/-- Calls on a document have tickets that go up. -/
theorem Event.callsOn_ascending (uri : String) (next : Nat) (events : List Event)
    : (callsOn uri next events).Pairwise (fun first second => first.1 < second.1)
      ∧ ∀ call ∈ callsOn uri next events, next ≤ call.1 := by
  induction events generalizing next with
  | nil => exact ⟨.nil, by simp [callsOn]⟩
  | cons event rest ih =>
      cases event with
      | arrive request =>
          obtain ⟨ascending, issued⟩ := ih (next + 1)
          have later : ∀ call ∈ callsOn uri (next + 1) rest, next ≤ call.1 := fun call member =>
            Nat.le_of_succ_le (issued call member)
          unfold callsOn
          split
          · refine ⟨List.pairwise_cons.mpr ⟨issued, ascending⟩, ?_⟩
            exact List.forall_mem_cons.mpr ⟨Nat.le_refl next, later⟩
          · exact ⟨ascending, later⟩
      | start _ | loaded _ _ | published _ _ | leave _ => exact ih next

-----------------------------------------------------------------------------------------
-- What a run shows of the calls since a close
-----------------------------------------------------------------------------------------

/-- What a run shows of a call on a document is this performance: the call does just that, its caller
gets no other answer, and when no call on the document is left it has been done.
-/
structure Service.Shows (service : Service) (uri : String) (effects : List Effect)
    (call : Nat × Request) (performance : Performance)
    : Prop where
  done : ∀ seen, (call.1, seen) ∈ Effect.performances uri effects → seen = performance
  returned : ∀ answer, .returned uri call.1 answer ∈ effects → answer = performance.answer
  finished : service.Idle uri → (call.1, performance) ∈ Effect.performances uri effects

namespace Serialized

variable {outcomes : Outcomes} {publishes : Bool} {uri : String} {service : Service}
  {calls later : List (Nat × Request)} {effects : List Effect}

/-- What a run has performed is the beginning of what its calls do in turn, and all of it when none
is left.
-/
theorem performances (serialized : Serialized outcomes publishes uri calls effects service)
    (own : ∀ call ∈ calls, call.2.uri = uri)
    : Effect.performances uri effects <+: Store.performances outcomes publishes .empty calls
      ∧ (service.Idle uri
        → Effect.performances uri effects
          = Store.performances outcomes publishes .empty calls) := by
  have account := Store.account_performAll outcomes publishes own .empty []
  have seen : ((Store.performAll outcomes publishes .empty calls).2.foldl (Account.note uri)
      .blank).performed = Store.performances outcomes publishes .empty calls :=
    congrArg Account.performed account
  rw [Effect.performances, ← Account.foldl_note_workOn, ← seen]
  refine ⟨?_, fun idle => by rw [(serialized.finished idle).1]⟩
  obtain ⟨rest, whole⟩ := serialized.begun
  rw [← whole, List.foldl_append]
  exact Account.performed_prefix rest _

/-- What a run shows of a call is what it does in turn. -/
theorem shows (serialized : Serialized outcomes publishes uri calls effects service)
    (own : ∀ call ∈ calls, call.2.uri = uri)
    (ascending : calls.Pairwise fun first second => first.1 < second.1)
    {call : Nat × Request} {performance : Performance}
    (member : (call.1, performance) ∈ Store.performances outcomes publishes .empty calls)
    : service.Shows uri effects call performance := by
  obtain ⟨begun, finished⟩ := serialized.performances own
  have distinct : ((Store.performances outcomes publishes .empty calls).map (·.1)).Nodup := by
    rw [Store.tickets_performances]
    exact (ascending.map _ fun _ _ less => Nat.ne_of_lt less)
  have only {seen : Performance}
      (shown : (call.1, seen) ∈ Store.performances outcomes publishes .empty calls)
      : seen = performance :=
    congrArg Prod.snd (List.inj_on_of_nodup_map distinct shown member rfl)
  refine ⟨fun seen shown => only (begun.subset shown), fun answer returned => ?_, fun idle => ?_⟩
  · have told : (call.1, answer) ∈ Effect.returns uri effects :=
      List.mem_filterMap.mpr ⟨_, returned, by simp [Effect.returned?]⟩
    have settled := serialized.returned.subset told
    rw [Store.settlements_performances outcomes publishes own] at settled
    obtain ⟨⟨ticket, seen⟩, shown, same⟩ := List.mem_map.mp settled
    obtain ⟨rfl, rfl⟩ := Prod.mk.inj same
    rw [only shown]
  · rw [finished idle]
    exact member

/-- What a run shows of the calls since a close is what they do in turn when the document has never
been open.
-/
theorem shows_since (serialized : Serialized outcomes publishes uri calls effects service)
    (own : ∀ call ∈ calls, call.2.uri = uri)
    (ascending : calls.Pairwise fun first second => first.1 < second.1)
    (since : Event.SinceClose uri calls later)
    : List.Forall₂ (service.Shows uri effects) later
        ((Store.performances outcomes publishes .empty later).map (·.2))
      ∧ (service.Idle uri
        → service.store.get? uri
          = (Store.performAll outcomes publishes .empty later).1.get? uri) := by
  rcases since with rfl | ⟨earlier, ticket, order⟩
  · refine ⟨?_, fun idle => (serialized.finished idle).2.1⟩
    exact (Store.mem_performances outcomes publishes .empty later).imp fun _ _ member =>
      serialized.shows own ascending member
  · refine ⟨?_, fun idle => serialized.closed idle earlier ticket later order⟩
    -- the calls go on after the close, from a store in which their document is not open
    have shut := Store.get?_perform_close (outcomes.surroundings publishes ticket)
      (Store.performAll outcomes publishes .empty earlier).1 uri
    generalize reached : ((Store.performAll outcomes publishes .empty earlier).1.perform
      (outcomes.surroundings publishes ticket) (.close uri)).1 = store at shut
    have about : ∀ call ∈ later, call.2.uri = uri := fun call member =>
      own call (order ▸ List.mem_append_right _ (List.mem_cons_of_mem _ member))
    have alike := Store.performances_alike publishes (Outcomes.Alike.refl outcomes later) about
      (show store.get? uri = ByUri.empty.get? uri from shut)
    rw [← alike.1]
    refine (Store.mem_performances outcomes publishes store later).imp fun _ _ member => ?_
    refine serialized.shows own ascending ?_
    rw [order, Store.performances_append]
    refine List.mem_append_right _ (List.mem_cons_of_mem _ ?_)
    exact reached ▸ member

end Serialized

namespace Service

variable {publishes : Bool} {events twinEvents : List Event} {service twin : Service}
  {effects twinEffects : List Effect} {outcomes twinOutcomes : Outcomes} {uri : String}
  {calls twins : List (Nat × Request)}

/-- In two runs with the same calls on a document since it was last closed, with the same trees and
publications, these calls show the same performances, and leave the document alike. Whatever else
happens in the runs, before the close or on other documents, makes no difference.
-/
theorem shows_of_runs
    (ran : Service.run publishes .initial events = some (service, effects))
    (twinRan : Service.run publishes .initial twinEvents = some (twin, twinEffects))
    (admitted : ∀ event ∈ events, outcomes.Admits event)
    (twinAdmitted : ∀ event ∈ twinEvents, twinOutcomes.Admits event)
    (since : Event.SinceClose uri (Event.callsOn uri 0 events) calls)
    (twinSince : Event.SinceClose uri (Event.callsOn uri 0 twinEvents) twins)
    (alike : List.Forall₂ (outcomes.Alike twinOutcomes) calls twins)
    : (∃ performances : List Performance,
        List.Forall₂ (service.Shows uri effects) calls performances
        ∧ List.Forall₂ (twin.Shows uri twinEffects) twins performances)
      ∧ (service.Idle uri → twin.Idle uri → service.store.get? uri = twin.store.get? uri) := by
  have own {events : List Event} : ∀ call ∈ Event.callsOn uri 0 events, call.2.uri = uri :=
    fun call member => Event.uri_of_callsOn member
  have about : ∀ call ∈ calls, call.2.uri = uri := by
    intro call member
    rcases since with rfl | ⟨earlier, ticket, order⟩
    · exact own call member
    · exact own call (order ▸ List.mem_append_right _ (List.mem_cons_of_mem _ member))
  obtain ⟨shows, left⟩ := (serialized_of_run ran admitted uri).shows_since own
    (Event.callsOn_ascending uri 0 events).1 since
  obtain ⟨twinShows, twinLeft⟩ := (serialized_of_run twinRan twinAdmitted uri).shows_since own
    (Event.callsOn_ascending uri 0 twinEvents).1 twinSince
  obtain ⟨performances, content⟩ := Store.performances_alike publishes alike about
    (rfl : (ByUri.empty : Store).get? uri = ByUri.empty.get? uri)
  refine ⟨⟨_, shows, performances ▸ twinShows⟩, fun idle twinIdle => ?_⟩
  rw [left idle, twinLeft twinIdle, content]

end Service

/-- A document is highlighted in a version that its publisher refuses, and closed; then it is
highlighted in a lower version, next to another document whose tree is missing.
-/
def Service.renewed : List Event :=
  [.arrive (.highlight ⟨"main.cpp", .ofInt 5, "old.json"⟩),
    .arrive (.highlight ⟨"other.cpp", .ofInt 1, "other.json"⟩), .start 0, .start 1,
    .loaded 0 (.ok (.ofMacro 7 0 3)), .arrive (.close "main.cpp"),
    .arrive (.highlight ⟨"main.cpp", .ofInt 1, "main.json"⟩), .published 0 (.error "refused"),
    .start 2, .leave 0, .start 3, .loaded 1 (.error (.notFound "other.json")),
    .loaded 3 (.ok (.ofMacro 2 0 3)), .leave 2, .published 3 (.ok ()), .leave 3]

/-- The same version of that document alone. -/
def Service.solitary : List Event :=
  [.arrive (.highlight ⟨"main.cpp", .ofInt 1, "main.json"⟩), .start 0,
    .loaded 0 (.ok (.ofMacro 2 0 3)), .published 0 (.ok ()), .leave 0]

/-- What the loads and the publications return when the document is opened anew. -/
def Outcomes.renewed : Outcomes where
  load ticket :=
    if ticket = 0 then .ok (.ofMacro 7 0 3)
    else if ticket = 3 then .ok (.ofMacro 2 0 3)
    else .error (.notFound "other.json")
  publication ticket := if ticket = 0 then .error "refused" else .ok ()

/-- What they return when it is opened alone. -/
def Outcomes.solitary : Outcomes where
  load _ := .ok (.ofMacro 2 0 3)
  publication _ := .ok ()

/-- The version is performed in both runs alike, and both have the document open with it. -/
theorem Service.shows_of_runs_renewed
    : ∃ service effects twin twinEffects performance,
        Service.run true .initial renewed = some (service, effects)
        ∧ Service.run true .initial solitary = some (twin, twinEffects)
        ∧ service.Shows "main.cpp" effects
            (3, .highlight ⟨"main.cpp", .ofInt 1, "main.json"⟩) performance
        ∧ twin.Shows "main.cpp" twinEffects
            (0, .highlight ⟨"main.cpp", .ofInt 1, "main.json"⟩) performance
        ∧ service.store.get? "main.cpp" = twin.store.get? "main.cpp"
        ∧ (service.store.get? "main.cpp").map Snapshot.version = some (.ofInt 1) := by
  have runs
      : (Service.run true .initial renewed).any (fun result =>
          result.1.queue.jobs.all (fun call => call.uri ≠ "main.cpp")
          ∧ (result.1.store.get? "main.cpp").map Snapshot.version = some (.ofInt 1)) = true := by
    cbv
  have runsAlone
      : (Service.run true .initial solitary).any (fun result =>
          result.1.queue.jobs.all (fun call => call.uri ≠ "main.cpp")) = true := by
    cbv
  obtain ⟨⟨service, effects⟩, ran, seen⟩ := (Option.any_eq_true _ _).mp runs
  obtain ⟨⟨twin, twinEffects⟩, twinRan, quiet⟩ := (Option.any_eq_true _ _).mp runsAlone
  obtain ⟨idle, version⟩ := of_decide_eq_true seen
  have admitted : ∀ event ∈ renewed, Outcomes.renewed.Admits event := by
    simp [renewed, Outcomes.renewed, Outcomes.Admits]
  have twinAdmitted : ∀ event ∈ solitary, Outcomes.solitary.Admits event := by
    simp [solitary, Outcomes.solitary, Outcomes.Admits]
  have since
      : Event.SinceClose "main.cpp" (Event.callsOn "main.cpp" 0 renewed)
          [(3, .highlight ⟨"main.cpp", .ofInt 1, "main.json"⟩)] :=
    Or.inr ⟨[(0, .highlight ⟨"main.cpp", .ofInt 5, "old.json"⟩)], 2, rfl⟩
  have alone
      : Event.SinceClose "main.cpp" (Event.callsOn "main.cpp" 0 solitary)
          [(0, .highlight ⟨"main.cpp", .ofInt 1, "main.json"⟩)] :=
    Or.inl rfl
  obtain ⟨⟨performances, shows, twinShows⟩, left⟩ := shows_of_runs ran twinRan admitted
    twinAdmitted since alone (.cons ⟨rfl, rfl, rfl⟩ .nil)
  obtain ⟨performance, _, shown, _, rfl⟩ := List.forall₂_cons_left_iff.mp shows
  refine ⟨service, effects, twin, twinEffects, performance, ran, twinRan, shown,
    (List.forall₂_cons.mp twinShows).1, left ?_ ?_, version⟩
  · simpa [Idle] using idle
  · simpa [Idle] using quiet

end Highlighter
