import Highlighter.Proofs.Service.Rejection
import Highlighter.Proofs.Service.Publication
import Highlighter.Service.Account

/-! Versions of a document over a whole run. Those that are stored between two closes go up, and the
document has the last of them; whether a highlight is stale, or a close finds nothing to close, is
decided when its turn comes, by what its document looks like then, and such a call leaves no trace.
-/

namespace Highlighter

-----------------------------------------------------------------------------------------
-- Versions that go up
-----------------------------------------------------------------------------------------

/-- The versions of a document since it was last closed, next to what it looks like: each is greater
than those before it, and it has the last one. One that is closed has had none.
-/
structure Chronicle (versions : List Number) (content : Option Snapshot) : Prop where
  last : versions.getLast? = content.map Snapshot.version
  ascending : versions.Pairwise fun earlier later => later.atMost earlier = false

namespace Chronicle

variable {versions : List Number} {content : Option Snapshot}

theorem nil : Chronicle [] none := ⟨rfl, .nil⟩

/-- A document is closed exactly if it has had no version since. -/
theorem eq_nil_iff (chronicle : Chronicle versions content) : versions = [] ↔ content = none := by
  rw [← List.getLast?_eq_none_iff, chronicle.last, Option.map_eq_none_iff]

theorem greatest (chronicle : Chronicle versions content) {snapshot : Snapshot}
    (shown : content = some snapshot)
    : ∀ version ∈ versions, version.atMost snapshot.version = true := by
  have last := chronicle.last
  rw [shown, Option.map_some] at last
  obtain ⟨front, rfl⟩ := List.getLast?_eq_some_iff.mp last
  have below := (List.pairwise_append.mp chronicle.ascending).2.2
  refine List.forall_mem_append.mpr ⟨fun version earlier => ?_, ?_⟩
  · exact Number.atMost_of_not (below version earlier snapshot.version List.mem_cons_self)
  · refine List.forall_mem_singleton.mpr ?_
    rw [Number.atMost_iff]
    exact .inr ⟨rfl, Rat.le_refl⟩

/-- A version that its document accepts is greater than all before it. -/
theorem concat (chronicle : Chronicle versions content) {request : HighlightRequest}
    (accepted : request.checkVersion content = .ok ()) (tokens : List Token)
    : Chronicle (versions ++ [request.version]) (some ⟨request.version, tokens⟩) := by
  refine ⟨by simp, ?_⟩
  refine List.pairwise_append.mpr ⟨chronicle.ascending, List.pairwise_singleton _ _, ?_⟩
  intro earlier member later latest
  rw [List.mem_singleton.mp latest]
  cases content with
  | none =>
      rw [chronicle.eq_nil_iff.mpr rfl] at member
      contradiction
  | some snapshot =>
      have newer := HighlightRequest.newer_of_accepted accepted
      have below := chronicle.greatest rfl earlier member
      rw [Bool.eq_false_iff]
      intro notNewer
      rw [Number.atMost_trans notNewer below] at newer
      contradiction

end Chronicle

-----------------------------------------------------------------------------------------
-- The versions that moves store
-----------------------------------------------------------------------------------------

/-- Effects on other documents store no version of a document. -/
theorem Effect.noteVersion_others {uri : String} {effects : List Effect}
    (elsewhere : ∀ effect ∈ effects, effect.uri ≠ uri) (versions : List Number)
    : effects.foldl (noteVersion uri) versions = versions := by
  refine foldl_unchanged fun effect member => ?_
  have different := elsewhere effect member
  cases effect with
  | settled other ticket answer =>
      rw [Effect.uri] at different
      unfold noteVersion
      split <;> simp_all
  | warned _ _ | stored _ _ | removed _ | handed _ _ | returned _ _ _ =>
      simp_all [noteVersion, Effect.uri]

theorem Effect.noteVersion_warnings (uri other : String) (versions : List Number)
    (places : List FileLocation)
    : (places.map (.warned other)).foldl (noteVersion uri) versions = versions := by
  refine foldl_unchanged fun effect member => ?_
  obtain ⟨place, _, rfl⟩ := List.mem_map.mp member
  rfl

/-- A commit is noted as the version of its document, if it has a snapshot. -/
theorem Chronicle.keep {versions : List Number} {store : Store} {request : HighlightRequest}
    (chronicle : Chronicle versions (store.get? request.uri))
    (accepted : request.checkVersion (store.get? request.uri) = .ok ())
    (base : Option Snapshot) (tree : Tree)
    : Chronicle
        ((store.keep request.uri (request.commit base tree)).2.foldl
          (Effect.noteVersion request.uri) versions)
        ((store.keep request.uri (request.commit base tree)).1.get? request.uri) := by
  cases kept : (request.commit base tree).snapshot with
  | none => simpa [Store.keep, kept] using chronicle
  | some snapshot =>
      obtain ⟨found, -, rfl⟩ := HighlightRequest.snapshot_of_commit kept
      simpa [Store.keep, kept, Effect.noteVersion] using chronicle.concat accepted found.tokens

namespace Service

variable {publishes : Bool} {service : Service} {versions : List Number} {call : Call}

/-- No versions are forgotten when a call settles, unless it is a close. -/
theorem noteVersion_advance {move : Move}
    (kept : ∀ closed, move.stage ≠ .ended (.ok (.closed closed))) (uri : String)
    : (service.advance call move).2.foldl (Effect.noteVersion uri) versions
      = move.effects.foldl (Effect.noteVersion uri) versions := by
  rw [advance, List.foldl_append]
  split
  next answer ended =>
    cases answer with
    | error failure => rfl
    | ok answer =>
        cases answer with
        | highlighted answer => rfl
        | closed closed => exact absurd ended (kept closed)
  next => rfl

/-- A turn keeps the versions of its document, or closes it. -/
theorem chronicle_start (named : call.task.uri = call.uri)
    (chronicle : Chronicle versions (service.store.get? call.uri))
    : Chronicle
        ((service.advance call (.ofTurn service.store call.task)).2.foldl
          (Effect.noteVersion call.uri) versions)
        ((Move.ofTurn service.store call.task).store.get? call.uri) := by
  rw [← named] at chronicle ⊢
  cases task : call.task with
  | close uri =>
      rw [task] at chronicle named
      cases found : service.store.get? uri with
      | none => simpa [advance, Move.ofTurn, found, Effect.noteVersion] using chronicle
      | some snapshot =>
          simpa [advance, Move.ofTurn, found, Effect.noteVersion, Request.uri, ← named]
            using Chronicle.nil
  | highlight request =>
      rw [task] at chronicle
      cases checked : request.checkVersion (service.store.get? request.uri) <;>
        simpa [advance, Move.ofTurn, checked, Effect.noteVersion] using chronicle

/-- The end of a load keeps the versions of its document, or adds the one that it accepted. -/
theorem chronicle_loaded {request : HighlightRequest} (named : request.uri = call.uri)
    (chronicle : Chronicle versions (service.store.get? call.uri))
    (accepted : request.checkVersion (service.store.get? call.uri) = .ok ())
    (base : Option Snapshot) (loaded : Except LoadFault Tree)
    : Chronicle
        ((service.advance call (.ofLoad publishes service.store request base loaded)).2.foldl
          (Effect.noteVersion call.uri) versions)
        ((Move.ofLoad publishes service.store request base loaded).store.get? call.uri) := by
  rw [← named] at chronicle accepted ⊢
  cases loaded with
  | error fault => exact chronicle
  | ok tree =>
      have kept := chronicle.keep accepted base tree
      have warned := Effect.noteVersion_warnings request.uri request.uri versions
        (request.commit base tree).diagnostics
      simp only [Move.ofLoad, Move.ofTree]
      split
      next failure answered =>
        rw [noteVersion_advance (by simp), List.foldl_append, warned]
        exact kept
      next answer answered =>
        simp only [Move.ofAnswer]
        split
        · rw [noteVersion_advance (by simp), List.foldl_append, List.foldl_append, warned]
          exact kept
        · rw [noteVersion_advance (by simp), List.append_nil, List.foldl_append, warned]
          exact kept

/-- A call that moves changes the versions of no document but its own. -/
theorem Moves.chronicle {move : Move} (moves : service.Moves call move) {effects : List Effect}
    (chronicle : ∀ uri, Chronicle (Effect.versions uri effects) (service.store.get? uri))
    (own
      : Chronicle
          ((service.advance call move).2.foldl (Effect.noteVersion call.uri)
            (Effect.versions call.uri effects))
          (move.store.get? call.uri))
    (uri : String)
    : Chronicle (Effect.versions uri (effects ++ (service.advance call move).2))
        ((service.advance call move).1.store.get? uri) := by
  rw [Effect.versions, List.foldl_append, ← Effect.versions]
  by_cases same : uri = call.uri
  · exact same ▸ own
  · have elsewhere : ∀ effect ∈ (service.advance call move).2, effect.uri ≠ uri := by
      intro effect member
      rw [(work_advance moves.about effect member).1]
      exact Ne.symm same
    rw [Effect.noteVersion_others elsewhere, advance, moves.about.others uri same]
    exact chronicle uri

theorem Sound.chronicle_step (sound : service.Sound) {effects : List Effect}
    (chronicle : ∀ uri, Chronicle (Effect.versions uri effects) (service.store.get? uri))
    {event : Event} {result : Service × List Effect}
    (stepped : service.step publishes event = some result) (uri : String)
    : Chronicle (Effect.versions uri (effects ++ result.2)) (result.1.store.get? uri) := by
  cases step_steps stepped with
  | arrive request => simpa only [List.append_nil] using chronicle uri
  | @start call member waiting free =>
      have moves := sound.moves_start member waiting free
      exact moves.chronicle chronicle
        (chronicle_start (sound.named call member) (chronicle call.uri)) uri
  | @loaded call request base member loading tree =>
      have moves : service.Moves call (.ofLoad publishes service.store request base tree) :=
        sound.moves_loaded member loading tree
      obtain ⟨task, shown, accepted⟩ := sound.loading call member request base loading
      have named : request.uri = call.uri := by
        simpa only [task, Request.uri] using sound.named call member
      exact moves.chronicle chronicle
        (chronicle_loaded named (chronicle call.uri) (shown ▸ accepted) base tree) uri
  | @published call answer member publishing outcome =>
      have moves := sound.moves_published member publishing outcome
      refine moves.chronicle chronicle ?_ uri
      rw [noteVersion_advance]
      · exact chronicle call.uri
      · cases outcome <;> simp [Move.ofResult, Highlighted.afterPublication]
  | @leave call answer member ended =>
      rw [Effect.versions, List.foldl_append, ← Effect.versions]
      exact chronicle uri

/-- After every run each document has the last of the versions that were stored since it was closed,
and these went up.
-/
theorem chronicle_of_run {events : List Event} {result : Service × List Effect}
    (ran : Service.run publishes .initial events = some result) (uri : String)
    : Chronicle (Effect.versions uri result.2) (result.1.store.get? uri) := by
  refine (Sound.of_run
    (fun _ effects service =>
      ∀ uri, Chronicle (Effect.versions uri effects) (service.store.get? uri))
    (fun _ => .nil) (fun _ _ _ _ _ sound chronicle stepped => ?_) ran).2 uri
  exact sound.chronicle_step chronicle stepped

end Service

-----------------------------------------------------------------------------------------
-- Requests that are over with their turn
-----------------------------------------------------------------------------------------

/-- How a request ends with its turn, by what its document looks like then; none if it goes on. -/
def Request.verdict? (content : Option Snapshot) : Request → Option (Except Failure Answer)
  | .close uri => some (if content.isSome then .ok (.closed uri) else .error (.notOpen uri))
  | .highlight request =>
      match request.checkVersion content with
      | .error failure => some (.error failure)
      | .ok () => none

/-- The answers that no call ends with later than with its turn. -/
def Answer.IsVerdict : Except Failure Answer → Prop
  | .ok (.closed _) | .error (.stale _ _ _) | .error (.notOpen _) => True
  | _ => False

/-- A highlight is stale exactly if its document is open and has a version as great. -/
theorem HighlightRequest.checkVersion_eq_error {request : HighlightRequest}
    {content : Option Snapshot} {failure : Failure}
    : request.checkVersion content = .error failure
      ↔ ∃ snapshot,
          content = some snapshot
          ∧ request.version.atMost snapshot.version = true
          ∧ failure = .stale request.uri request.version snapshot.version := by
  unfold checkVersion
  constructor
  · intro failed
    split at failed
    · contradiction
    next snapshot =>
      split at failed
      next below => exact ⟨snapshot, rfl, below, (Except.error.inj failed).symm⟩
      next => contradiction
  · intro older
    rcases older with ⟨snapshot, rfl, below, rfl⟩
    exact if_pos below

namespace Request

variable {request : Request} {content : Option Snapshot} {named : String}

theorem verdict?_closed
    : request.verdict? content = some (.ok (.closed named))
      ↔ request = .close named ∧ content ≠ none := by
  cases request with
  | close uri => cases content <;> simp [verdict?]
  | highlight wanted =>
      simp only [verdict?]
      split <;> simp

theorem verdict?_notOpen
    : request.verdict? content = some (.error (.notOpen named))
      ↔ request = .close named ∧ content = none := by
  cases request with
  | close uri => cases content <;> simp [verdict?]
  | highlight wanted =>
      simp only [verdict?]
      split
      next failure failed =>
        obtain ⟨snapshot, -, -, rfl⟩ := HighlightRequest.checkVersion_eq_error.mp failed
        simp
      next => simp

theorem verdict?_stale {version current : Number}
    : request.verdict? content = some (.error (.stale named version current))
      ↔ ∃ wanted snapshot,
          request = .highlight wanted
          ∧ content = some snapshot
          ∧ wanted.version.atMost snapshot.version = true
          ∧ named = wanted.uri
          ∧ version = wanted.version
          ∧ current = snapshot.version := by
  cases request with
  | close uri => cases content <;> simp [verdict?]
  | highlight wanted =>
      have failed {failure : Failure}
          : (Request.highlight wanted).verdict? content = some (.error failure)
            ↔ wanted.checkVersion content = .error failure := by
        simp only [verdict?]
        split <;> simp_all
      rw [failed, HighlightRequest.checkVersion_eq_error]
      constructor
      · intro older
        rcases older with ⟨snapshot, shown, taken, same⟩
        obtain ⟨rfl, rfl, rfl⟩ := Failure.stale.inj same
        exact ⟨wanted, snapshot, rfl, shown, taken, rfl, rfl, rfl⟩
      · intro older
        rcases older with ⟨_, snapshot, same, shown, taken, rfl, rfl, rfl⟩
        obtain rfl := Request.highlight.inj same
        exact ⟨snapshot, shown, taken, rfl⟩

end Request

/-- A turn ends with the verdict on its request, if there is one. -/
theorem Move.ofTurn_ended {store : Store} {request : Request} {answer : Except Failure Answer}
    : (ofTurn store request).stage = .ended answer
      ↔ request.verdict? (store.get? request.uri) = some answer := by
  cases request with
  | close uri =>
      cases found : store.get? uri <;> simp [ofTurn, Request.verdict?, Request.uri, found]
  | highlight request =>
      simp only [ofTurn, Request.verdict?, Request.uri]
      cases request.checkVersion (store.get? request.uri) <;> simp

/-- A turn that fails leaves no trace. -/
theorem Move.ofTurn_failed {store : Store} {request : Request} {failure : Failure}
    (failed : (ofTurn store request).stage = .ended (.error failure))
    : (ofTurn store request).store = store ∧ (ofTurn store request).effects = [] := by
  cases request with
  | close uri => cases found : store.get? uri <;> simp_all [ofTurn]
  | highlight request =>
      simp only [ofTurn]
      split <;> exact ⟨rfl, rfl⟩

theorem HighlightRequest.not_verdict_of_commit {request : HighlightRequest}
    {base : Option Snapshot} {tree : Tree} {failure : Failure}
    (failed : (request.commit base tree).answer = .error failure)
    : ¬ Answer.IsVerdict (.error failure) := by
  cases request.commits base tree with
  | endless _ same | unsorted _ _ same | overflow _ _ _ same =>
      rw [same] at failed
      rw [← Except.error.inj failed]
      exact id
  | answered _ _ _ same =>
      rw [same] at failed
      contradiction

theorem Move.not_verdict_of_ofLoad {publishes : Bool} {store : Store} {request : HighlightRequest}
    {base : Option Snapshot} {loaded : Except LoadFault Tree} {answer : Except Failure Answer}
    (ended : (ofLoad publishes store request base loaded).stage = .ended answer)
    : ¬ Answer.IsVerdict answer := by
  cases loaded with
  | error fault =>
      rw [← Stage.ended.inj ended]
      exact id
  | ok tree =>
      simp only [ofLoad, ofTree] at ended
      split at ended
      next failure failed =>
        rw [← Stage.ended.inj ended]
        exact HighlightRequest.not_verdict_of_commit failed
      next =>
        simp only [ofAnswer] at ended
        split at ended
        · contradiction
        · rw [← Stage.ended.inj ended]
          exact id

theorem Highlighted.not_verdict_of_afterPublication (answer : Highlighted)
    (result : Except String Unit)
    : ¬ Answer.IsVerdict (answer.afterPublication result) := by
  cases result <;> exact id

/-- What the end of a load stores is the version that was asked for, with the tokens of its tree. -/
theorem Move.stored_of_ofLoad {publishes : Bool} {store : Store} {request : HighlightRequest}
    {base : Option Snapshot} {loaded : Except LoadFault Tree} {uri : String} {snapshot : Snapshot}
    (stored : .stored uri snapshot ∈ (ofLoad publishes store request base loaded).effects)
    : uri = request.uri
      ∧ ∃ tree found,
          loaded = .ok tree
          ∧ tree.highlights = .ok found
          ∧ snapshot = ⟨request.version, found.tokens⟩ := by
  cases loaded with
  | error fault => simp [ofLoad] at stored
  | ok tree =>
      have member
          : .stored uri snapshot ∈ (store.keep request.uri (request.commit base tree)).2 := by
        simp only [ofLoad, ofTree] at stored
        split at stored
        next => simpa using stored
        next =>
          simp only [ofAnswer] at stored
          split at stored <;> simpa using stored
      cases kept : (request.commit base tree).snapshot with
      | none => simp [Store.keep, kept] at member
      | some stored =>
          simp only [Store.keep, kept, List.mem_singleton, Effect.stored.injEq] at member
          obtain ⟨rfl, rfl⟩ := member
          obtain ⟨found, highlighted, same⟩ := HighlightRequest.snapshot_of_commit kept
          exact ⟨rfl, tree, found, rfl, highlighted, same⟩

namespace Service

variable {publishes : Bool} {service next last : Service} {event : Event} {uri : String}
  {effects : List Effect} {moments before after : List Moment} {moment : Moment} {ticket : Nat}
  {answer : Except Failure Answer}

/-- A call settles with its move exactly if it is over then. -/
theorem Moves.settled_iff {call : Call} {move : Move} (moves : service.Moves call move)
    : .settled uri ticket answer ∈ (service.advance call move).2
      ↔ call.uri = uri ∧ call.ticket = ticket ∧ move.stage = .ended answer := by
  have among {effects : List Effect}
      : .settled uri ticket answer ∈ effects ↔ (ticket, answer) ∈ Effect.settlements uri effects := by
    refine ⟨fun member => List.mem_filterMap.mpr ⟨_, member, by simp [Effect.settled?]⟩, ?_⟩
    intro member
    obtain ⟨effect, present, settled⟩ := List.mem_filterMap.mp member
    cases effect with
    | settled other number result => simp_all [Effect.settled?]
    | warned _ _ | stored _ _ | removed _ | handed _ _ | returned _ _ _ =>
        simp [Effect.settled?] at settled
  rw [among, moves.settlements, Option.mem_toList]
  cases stage : move.stage with
  | waiting | running _ => simp [Call.ended?]
  | ended other =>
      by_cases same : call.uri = uri <;> simp [Call.ended?, same]

/-- A call ends with a verdict exactly if its turn has come, and what its document looks like then
leads to it.
-/
theorem Sound.verdict_iff (sound : service.Sound) {events : List Event}
    (numbered : Numbered events service)
    (stepped : service.step publishes event = some (next, effects))
    (verdict : Answer.IsVerdict answer)
    : .settled uri ticket answer ∈ effects
      ↔ event = .start ticket
        ∧ ∃ request,
            Event.request? events ticket = some request
            ∧ request.uri = uri
            ∧ request.verdict? (service.store.get? uri) = some answer := by
  generalize reached : (next, effects) = result at stepped
  cases step_steps stepped with
  | arrive request => simp_all
  | @start call member waiting free =>
      have moves := sound.moves_start member waiting free
      have named := sound.named call member
      have known := numbered.tasks call member
      rw [show effects = _ from congrArg Prod.snd reached, moves.settled_iff, Move.ofTurn_ended]
      constructor
      · intro settles
        rcases settles with ⟨rfl, rfl, ended⟩
        exact ⟨rfl, call.task, known, named, named ▸ ended⟩
      · intro turn
        rcases turn with ⟨same, request, arrived, rfl, ended⟩
        obtain rfl := Event.start.inj same
        obtain rfl := Option.some.inj (known.symm.trans arrived)
        exact ⟨named.symm, rfl, ended⟩
  -- only a turn gives a verdict; what a load or a publication ends with never is one
  | @loaded call request base member loading tree =>
      have moves : service.Moves call (.ofLoad publishes service.store request base tree) :=
        sound.moves_loaded member loading tree
      rw [show effects = _ from congrArg Prod.snd reached, moves.settled_iff]
      refine iff_of_false (fun settled => ?_) (by simp)
      exact Move.not_verdict_of_ofLoad settled.2.2 verdict
  | @published call handed member publishing outcome =>
      have moves := sound.moves_published member publishing outcome
      rw [show effects = _ from congrArg Prod.snd reached, moves.settled_iff]
      refine iff_of_false (fun settled => ?_) (by simp)
      rw [← Stage.ended.inj settled.2.2] at verdict
      exact Highlighted.not_verdict_of_afterPublication handed outcome verdict
  | leave member ended => simp_all

/-- A version is stored when the load of a highlight of its document has ended. -/
theorem Sound.stored_step (sound : service.Sound) {events : List Event}
    (numbered : Numbered events service)
    (stepped : service.step publishes event = some (next, effects)) {snapshot : Snapshot}
    (stored : .stored uri snapshot ∈ effects)
    : ∃ ticket tree found request,
        event = .loaded ticket (.ok tree)
        ∧ tree.highlights = .ok found
        ∧ Event.request? events ticket = some (.highlight request)
        ∧ request.uri = uri
        ∧ snapshot = ⟨request.version, found.tokens⟩ := by
  generalize reached : (next, effects) = result at stepped
  have unsettled {call : Call} {move : Move}
      (member : .stored uri snapshot ∈ (service.advance call move).2)
      : .stored uri snapshot ∈ move.effects := by
    rcases List.mem_append.mp member with moved | settled
    · exact moved
    · split at settled <;> simp at settled
  cases step_steps stepped with
  | arrive request => simp_all
  | @start call member waiting free =>
      rw [show effects = _ from congrArg Prod.snd reached] at stored
      have moved := unsettled stored
      cases task : call.task with
      | close uri =>
          rw [task, Move.ofTurn] at moved
          split at moved <;> simp at moved
      | highlight request =>
          rw [task, Move.ofTurn] at moved
          split at moved <;> simp at moved
  | @loaded call request base member loading tree =>
      rw [show effects = _ from congrArg Prod.snd reached] at stored
      obtain ⟨rfl, tree, found, rfl, highlighted, rfl⟩ :=
        Move.stored_of_ofLoad (unsettled stored)
      have known := numbered.tasks call member
      rw [(sound.loading call member request base loading).1] at known
      exact ⟨call.ticket, tree, found, request, rfl, highlighted, known, rfl, rfl⟩
  | @published call handed member publishing outcome =>
      rw [show effects = _ from congrArg Prod.snd reached] at stored
      simpa [Move.ofResult] using unsettled stored
  | leave member ended => simp_all

/-- A call that fails with its turn leaves no trace, and has nothing more to do than to leave. -/
theorem Sound.refused_step (sound : service.Sound)
    (stepped : service.step publishes (.start ticket) = some (next, effects)) {failure : Failure}
    (refused : .settled uri ticket (.error failure) ∈ effects)
    : effects = [.settled uri ticket (.error failure)]
      ∧ next.store = service.store
      ∧ next.Past (.published ticket (.ok ())) := by
  generalize begins : Event.start ticket = event at stepped
  generalize reached : (next, effects) = result at stepped
  cases step_steps stepped with
  | @start call member waiting free =>
      have moves := sound.moves_start member waiting free
      obtain rfl := congrArg Prod.fst reached
      rw [show effects = _ from congrArg Prod.snd reached] at refused ⊢
      obtain ⟨rfl, rfl, failed⟩ := moves.settled_iff.mp refused
      obtain ⟨unchanged, quiet⟩ := Move.ofTurn_failed failed
      refine ⟨by simp only [Service.advance, failed, quiet, List.nil_append], unchanged, ?_⟩
      intro ticket ticketed
      obtain rfl := Option.some.inj ticketed
      refine ⟨sound.orderly.issued call member, fun other present same => ?_⟩
      obtain ⟨old, kept, rfl⟩ := Queue.mem_advance present
      split at same
      next own => simp [own, failed, stepsLeft, Event.stepsAfter]
      next different => exact absurd same different
  | arrive _ | loaded _ _ _ | published _ _ _ | leave _ _ => contradiction

namespace Timeline

/-- A call that has nothing more to do than to leave does nothing else, by induction over the run. -/
theorem only_leaves (timeline : Timeline publishes service moments last) (sound : service.Sound)
    (past : service.Past (.published ticket (.ok ())))
    : ∀ moment ∈ moments, moment.event.ticket? = some ticket → moment.event = .leave ticket := by
  induction timeline with
  | now => simp
  | @step service event next effects moments last stepped later ih =>
      obtain ⟨stays, precedes⟩ := (sound.past_step stepped).1 _ past
      refine List.forall_mem_cons.mpr ⟨fun about => ?_, ih (sound.step stepped) stays⟩
      have fewer := precedes ticket rfl about
      cases event with
      | arrive _ => contradiction
      | start _ | loaded _ _ | published _ _ => simp [Event.stepsAfter] at fewer
      | leave _ => exact congrArg Event.leave (Option.some.inj about)

/-- Nothing is about a call before its turn comes. -/
theorem not_before_start
    (timeline : Timeline publishes .initial (before ++ moment :: after) last)
    (begins : moment.event = .start ticket)
    : ∀ earlier ∈ before, earlier.event.ticket? ≠ some ticket := by
  intro earlier member about
  have ordered := List.pairwise_map.mp (events_of_run timeline.run)
  have precedes := (List.pairwise_append.mp ordered).2.2 earlier member moment List.mem_cons_self
  have fewer := precedes ticket about (by rw [begins]; rfl)
  rw [begins] at fewer
  cases event : earlier.event with
  | arrive _ => simp [event, Event.ticket?] at about
  | start _ | loaded _ _ | published _ _ | leave _ => simp [event, Event.stepsAfter] at fewer

/-- What is handed over at a moment is that of the call whose load ends, with or without a publisher. -/
theorem loaded_of_handover (timeline : Timeline publishes .initial moments last) {moment : Moment}
    (member : moment ∈ moments) {handover : Nat × Highlighted}
    (handed : handover ∈ moment.handovers)
    : ∃ tree, moment.event = .loaded handover.1 tree := by
  obtain ⟨before, after, rfl⟩ := List.append_of_mem member
  obtain ⟨middle, next, reached, stepped, -, -⟩ := timeline.split
  rcases handed_or_loaded stepped with ⟨nothing, -⟩ | ⟨call, -, -, tree, -, -, event, -⟩
  · rw [Moment.handovers, nothing] at handed
    split at handed <;> contradiction
  · rw [Moment.handovers, event] at handed
    obtain ⟨given, -, rfl⟩ := List.mem_map.mp handed
    exact ⟨tree, event⟩

end Timeline

-----------------------------------------------------------------------------------------
-- Versions over a run
-----------------------------------------------------------------------------------------

/-- What a run makes of the versions of its documents, whatever it does between.

A document is open exactly if it has had a version since it was last closed. Its version is the last
of those and the greatest, and each of them is greater than those before it. They are versions of
highlights whose tree has come; what closes a document is a close that finds it open when its turn
comes. A close is refused exactly if it does not, and a highlight is stale exactly if it finds a
version as great, which its failure names. A call that is refused has been about nothing before and
does nothing but leave; no tree comes for it, it hands nothing over, and the documents are as before.
-/
structure Versioned (moments : List Moment) : Prop where
  isClosed
    : ∀ before after,
        moments = before ++ after
        → ∀ uri,
            (Moment.storeAfter before).get? uri = none
            ↔ Effect.versions uri (before.flatMap Moment.effects) = []
  stored
    : ∀ before after,
        moments = before ++ after
        → ∀ uri snapshot,
            (Moment.storeAfter before).get? uri = some snapshot
            → (Effect.versions uri (before.flatMap Moment.effects)).getLast?
                = some snapshot.version
              ∧ ∀ version ∈ Effect.versions uri (before.flatMap Moment.effects),
                  version.atMost snapshot.version = true
  ascending
    : ∀ before after,
        moments = before ++ after
        → ∀ uri,
            (Effect.versions uri (before.flatMap Moment.effects)).Pairwise
              fun earlier later => later.atMost earlier = false
  committed
    : ∀ before moment after,
        moments = before ++ moment :: after
        → ∀ uri snapshot,
            .stored uri snapshot ∈ moment.effects
            → ∃ ticket tree found request,
                moment.event = .loaded ticket (.ok tree)
                ∧ tree.highlights = .ok found
                ∧ Event.request? (before.map Moment.event) ticket = some (.highlight request)
                ∧ request.uri = uri
                ∧ snapshot = ⟨request.version, found.tokens⟩
  closed
    : ∀ before moment after,
        moments = before ++ moment :: after
        → ∀ uri ticket named,
            .settled uri ticket (.ok (.closed named)) ∈ moment.effects
            ↔ moment.event = .start ticket
              ∧ Event.request? (before.map Moment.event) ticket = some (.close uri)
              ∧ (Moment.storeAfter before).get? uri ≠ none
              ∧ named = uri
  notOpen
    : ∀ before moment after,
        moments = before ++ moment :: after
        → ∀ uri ticket named,
            .settled uri ticket (.error (.notOpen named)) ∈ moment.effects
            ↔ moment.event = .start ticket
              ∧ Event.request? (before.map Moment.event) ticket = some (.close uri)
              ∧ (Moment.storeAfter before).get? uri = none
              ∧ named = uri
  stale
    : ∀ before moment after,
        moments = before ++ moment :: after
        → ∀ uri ticket named version current,
            .settled uri ticket (.error (.stale named version current)) ∈ moment.effects
            ↔ moment.event = .start ticket
              ∧ ∃ request snapshot,
                  Event.request? (before.map Moment.event) ticket = some (.highlight request)
                  ∧ request.uri = uri
                  ∧ (Moment.storeAfter before).get? uri = some snapshot
                  ∧ request.version.atMost snapshot.version = true
                  ∧ named = uri
                  ∧ version = request.version
                  ∧ current = snapshot.version
  traceless
    : ∀ before moment after,
        moments = before ++ moment :: after
        → ∀ uri ticket failure,
            (∃ version current, failure = .stale uri version current) ∨ failure = .notOpen uri
            → .settled uri ticket (.error failure) ∈ moment.effects
            → moment.effects = [.settled uri ticket (.error failure)]
              ∧ moment.store = Moment.storeAfter before
              ∧ (∀ earlier ∈ before, earlier.event.ticket? ≠ some ticket)
              ∧ (∀ later ∈ after,
                  later.event.ticket? = some ticket → later.event = .leave ticket)
              ∧ ∀ other ∈ moments, ∀ handover ∈ other.handovers, handover.1 ≠ ticket

namespace Timeline

theorem upTo (timeline : Timeline publishes service (before ++ after) last)
    : ∃ middle, Timeline publishes service before middle := by
  cases after with
  | nil => exact ⟨last, by simpa using timeline⟩
  | cons moment rest =>
      obtain ⟨middle, next, reached, -⟩ := timeline.split
      exact ⟨middle, reached⟩

/-- At every time the effects so far tell the versions of a document. -/
theorem chronicle (timeline : Timeline publishes .initial (before ++ after) last) (uri : String)
    : Chronicle (Effect.versions uri (before.flatMap Moment.effects))
        ((Moment.storeAfter before).get? uri) := by
  obtain ⟨middle, reached⟩ := timeline.upTo
  rw [reached.storeAfter]
  exact chronicle_of_run reached.run uri

/-- At every moment the calls that end with a verdict are those whose turn it is. -/
theorem verdict_iff (timeline : Timeline publishes .initial (before ++ moment :: after) last)
    (verdict : Answer.IsVerdict answer)
    : .settled uri ticket answer ∈ moment.effects
      ↔ moment.event = .start ticket
        ∧ ∃ request,
            Event.request? (before.map Moment.event) ticket = some request
            ∧ request.uri = uri
            ∧ request.verdict? ((Moment.storeAfter before).get? uri) = some answer := by
  obtain ⟨middle, next, reached, stepped, -, -⟩ := timeline.split
  rw [reached.storeAfter]
  exact (reached.sound .initial).verdict_iff reached.numbered stepped verdict

/-- A call that fails with its turn leaves no trace in the run. -/
theorem traceless (timeline : Timeline publishes .initial (before ++ moment :: after) last)
    {failure : Failure} (verdict : Answer.IsVerdict (.error failure))
    (refused : .settled uri ticket (.error failure) ∈ moment.effects)
    : moment.effects = [.settled uri ticket (.error failure)]
      ∧ moment.store = Moment.storeAfter before
      ∧ (∀ earlier ∈ before, earlier.event.ticket? ≠ some ticket)
      ∧ (∀ later ∈ after, later.event.ticket? = some ticket → later.event = .leave ticket)
      ∧ ∀ other ∈ before ++ moment :: after, ∀ handover ∈ other.handovers, handover.1 ≠ ticket := by
  have begins := ((timeline.verdict_iff verdict).mp refused).1
  obtain ⟨middle, next, reached, stepped, store, rest⟩ := timeline.split
  have sound := reached.sound .initial
  obtain ⟨told, unchanged, past⟩ := sound.refused_step (begins ▸ stepped) refused
  have unseen := timeline.not_before_start begins
  have leaves := rest.only_leaves (sound.step stepped) past
  refine ⟨told, by rw [store, unchanged, reached.storeAfter], unseen, leaves, ?_⟩
  intro other member handover handed same
  subst same
  -- what is handed over was loaded at that moment, and no load is about this call
  obtain ⟨tree, event⟩ := timeline.loaded_of_handover member handed
  rcases List.mem_append.mp member with earlier | here | ⟨_, later⟩
  · exact unseen other earlier (by rw [event]; rfl)
  · rw [begins] at event
    contradiction
  · have left := leaves other later (by rw [event]; rfl)
    rw [event] at left
    contradiction

theorem versioned (timeline : Timeline publishes .initial moments last) : Versioned moments where
  isClosed := by
    intro before after same uri
    subst same
    exact (timeline.chronicle uri).eq_nil_iff.symm
  stored := by
    intro before after same uri snapshot shown
    subst same
    have chronicle := timeline.chronicle uri
    exact ⟨by rw [chronicle.last, shown]; rfl, chronicle.greatest shown⟩
  ascending := by
    intro before after same uri
    subst same
    exact (timeline.chronicle uri).ascending
  committed := by
    intro before moment after same uri snapshot stored
    subst same
    obtain ⟨middle, next, reached, stepped, -, -⟩ := timeline.split
    exact (reached.sound .initial).stored_step reached.numbered stepped stored
  closed := by
    intro before moment after same uri ticket named
    subst same
    rw [timeline.verdict_iff (show Answer.IsVerdict (.ok (.closed named)) from trivial)]
    simp only [Request.verdict?_closed]
    refine and_congr_right fun _ => ⟨?_, ?_⟩
    · intro closes
      rcases closes with ⟨_, arrived, rfl, rfl, isOpen⟩
      exact ⟨arrived, isOpen, rfl⟩
    · intro closes
      rcases closes with ⟨arrived, isOpen, rfl⟩
      exact ⟨_, arrived, rfl, rfl, isOpen⟩
  notOpen := by
    intro before moment after same uri ticket named
    subst same
    rw [timeline.verdict_iff (show Answer.IsVerdict (.error (.notOpen named)) from trivial)]
    simp only [Request.verdict?_notOpen]
    refine and_congr_right fun _ => ⟨?_, ?_⟩
    · intro refuses
      rcases refuses with ⟨_, arrived, rfl, rfl, isClosed⟩
      exact ⟨arrived, isClosed, rfl⟩
    · intro refuses
      rcases refuses with ⟨arrived, isClosed, rfl⟩
      exact ⟨_, arrived, rfl, rfl, isClosed⟩
  stale := by
    intro before moment after same uri ticket named version current
    subst same
    rw [timeline.verdict_iff
      (show Answer.IsVerdict (.error (.stale named version current)) from trivial)]
    simp only [Request.verdict?_stale]
    refine and_congr_right fun _ => ⟨?_, ?_⟩
    · intro older
      rcases older with ⟨_, arrived, rfl, request, snapshot, rfl, shown, taken, rfl, rfl, rfl⟩
      exact ⟨request, snapshot, arrived, rfl, shown, taken, rfl, rfl, rfl⟩
    · intro older
      rcases older with ⟨request, snapshot, arrived, rfl, shown, taken, rfl, rfl, rfl⟩
      exact ⟨_, arrived, rfl, request, snapshot, rfl, shown, taken, rfl, rfl, rfl⟩
  traceless := by
    intro before moment after same uri ticket failure refusal refused
    subst same
    refine timeline.traceless ?_ refused
    rcases refusal with ⟨version, current, rfl⟩ | rfl <;> trivial

end Timeline

/-- In every run, with or without a publisher, versions of documents obey their law: the run is one
of moments, at each of which its events and effects so far tell which documents are open and with
which version, and which calls are refused.
-/
theorem versioned_of_run {events : List Event}
    (ran : Service.run publishes .initial events = some (last, effects))
    : ∃ moments,
        Timeline publishes .initial moments last
        ∧ moments.map Moment.event = events
        ∧ moments.flatMap Moment.effects = effects
        ∧ Versioned moments := by
  obtain ⟨moments, timeline, happened, told⟩ := exists_timeline ran
  exact ⟨moments, timeline, happened, told, timeline.versioned⟩

/-- A version that is newer when it arrives is stale when its turn comes. The document is closed and
closed again, and then it accepts the same version.
-/
def outdated : List Event :=
  [.arrive (.highlight ⟨"main.cpp", .ofInt 2, "main.json"⟩),
    .arrive (.highlight ⟨"main.cpp", .ofInt 1, "main.json"⟩), .arrive (.close "main.cpp"),
    .arrive (.close "main.cpp"), .arrive (.highlight ⟨"main.cpp", .ofInt 1, "main.json"⟩),
    .start 0, .loaded 0 (.ok (.ofMacro 2 0 3)), .published 0 (.ok ()), .start 1, .leave 1,
    .start 2, .start 3, .start 4, .loaded 4 (.ok (.ofMacro 2 0 3)), .published 4 (.ok ())]

/-- The call that is outdated is stale, the second close finds nothing to close, and the document has
the version then that was refused before.
-/
theorem versioned_of_run_outdated
    : ∃ service effects moments,
        Service.run true .initial outdated = some (service, effects)
        ∧ Timeline true .initial moments service
        ∧ moments.flatMap Moment.effects = effects
        ∧ Versioned moments
        ∧ effects.filterMap Effect.failed?
          = [(1, .stale "main.cpp" (.ofInt 1) (.ofInt 2)), (3, .notOpen "main.cpp")]
        ∧ Effect.versions "main.cpp" effects = [.ofInt 1] := by
  have runs
      : (Service.run true .initial outdated).any (fun result =>
          result.2.filterMap Effect.failed?
            = [(1, .stale "main.cpp" (.ofInt 1) (.ofInt 2)), (3, .notOpen "main.cpp")]
          ∧ Effect.versions "main.cpp" result.2 = [.ofInt 1]) = true := by
    cbv
  obtain ⟨⟨service, effects⟩, ran, seen⟩ := (Option.any_eq_true _ _).mp runs
  obtain ⟨failures, versions⟩ := of_decide_eq_true seen
  obtain ⟨moments, timeline, _, told, versioned⟩ := versioned_of_run ran
  exact ⟨service, effects, moments, ran, timeline, told, versioned, failures, versions⟩

end Service

end Highlighter
