import Highlighter.Proofs.Line.Payloads
import Highlighter.Proofs.Payload.RoundTrip
import Highlighter.Proofs.Service.Returns
import Highlighter.Proofs.Tree.Resolved
import Mathlib

/-! Snapshots stay canonical. The tokens of a resolved tree are, and nothing else is ever stored, so
the comparison with a stored snapshot never finds a list out of order, whatever failed before, and
the lines of every answer ascend from 0.
-/

namespace Highlighter

-----------------------------------------------------------------------------------------
-- Canonical tokens
-----------------------------------------------------------------------------------------

/-- Tokens as a snapshot holds them: each is less than those behind it, no two have the same range,
their kinds are known, and no line or column is negative.
-/
structure Token.Canonical (tokens : List Token) : Prop where
  ascending : tokens.Pairwise fun a b => a.difference b < 0
  ranges : (tokens.map Token.range).Nodup
  kinds : ∀ token ∈ tokens, 0 ≤ token.kind ∧ token.kind ≤ 17
  natural : ∀ token ∈ tokens, token.range.Natural

/-- The sign of a difference is negative exactly before a token. -/
theorem Token.difference_neg {a b : Token} : a.difference b < 0 ↔ a.compare b = .lt := by
  rw [← compare_difference, Std.compare_eq_lt]

theorem Token.Canonical.sorted {tokens : List Token} (canonical : Canonical tokens)
    : Sorted tokens := by
  refine canonical.ascending.imp fun {a b} less => ?_
  rw [atMost, difference_neg.mp less]
  rfl

theorem Token.Canonical.nil : Canonical [] := by
  constructor <;> simp

/-- The tokens of a resolved tree are canonical, by what is collected and how its ranges are read.
-/
theorem Tree.Resolved.canonical {tree : Tree} (resolved : tree.Resolved) {found : Highlights}
    (highlighted : tree.highlights = .ok found)
    : Token.Canonical found.tokens := by
  have ascending : found.tokens.Pairwise fun a b => a.range.compare b.range = .lt := by
    obtain ⟨raw, _, rfl⟩ := ok_of_map_iff.mp highlighted
    exact Token.ascending_collect raw.tokens tree.macros
  constructor
  case ascending =>
    refine ascending.imp fun {a b} less => Token.difference_neg.mpr ?_
    rw [Token.compare, less]
    rfl
  case ranges => exact List.pairwise_map.mpr (ascending.imp Range.ne_of_lt)
  case kinds =>
    intro token member
    obtain ⟨kind, range, _, rfl⟩ := resolved.placed highlighted token member
    have known := kind.ordinal_lt
    exact ⟨Int.natCast_nonneg _, Int.ofNat_le.mpr (Nat.le_of_lt_succ known)⟩
  case natural =>
    intro token member
    obtain ⟨kind, range, natural, rfl⟩ := resolved.placed highlighted token member
    exact natural

theorem Snapshot.canonical_tokens {base : Option Snapshot}
    (canonical : ∀ snapshot, base = some snapshot → Token.Canonical snapshot.tokens)
    : Token.Canonical (baseline base) := by
  cases base with
  | none => exact .nil
  | some snapshot => exact canonical snapshot rfl

-----------------------------------------------------------------------------------------
-- Ascending lines
-----------------------------------------------------------------------------------------

/-- The lines of an answer ascend from 0. -/
structure Highlighted.Ascends (answer : Highlighted) : Prop where
  ascending : (answer.lines.map EncodedLine.line).Pairwise (· < ·)
  natural : ∀ line ∈ answer.lines, 0 ≤ line.line

/-- Every examined line is 0 or a later one, since 0 is examined first. -/
theorem Slice.natural_all {next previous : List Token} {slices : List Slice}
    (cuts : Cuts next previous slices) (all : slices = all next previous)
    : ∀ slice ∈ slices, 0 ≤ slice.line := by
  have ascending := cuts.ascending
  rw [Slice.all] at all
  split at all
  next => simp [all]
  next =>
    rw [all] at ascending ⊢
    refine List.forall_mem_cons.mpr ⟨Int.le_refl 0, fun slice member => ?_⟩
    exact Int.le_of_lt ((List.pairwise_cons.mp ascending).1 slice member)

/-- Comparing canonical lists finds no fault, and changed lines ascend from 0: each is an examined
line.
-/
theorem Line.changes_of_canonical {next previous : List Token} (new : Token.Canonical next)
    (old : Token.Canonical previous)
    : ∃ lines,
        changes next previous = .ok lines
        ∧ (lines.map Line.line).Pairwise (· < ·)
        ∧ ∀ line ∈ lines, 0 ≤ line.line := by
  have least : ∀ token ∈ next ++ previous, 0 ≤ token.line :=
    List.forall_mem_append.mpr
      ⟨fun token member => (new.natural token member).startLine,
        fun token member => (old.natural token member).startLine⟩
  have cuts := Slice.cuts_all new.sorted.lines old.sorted.lines least
  have kept {slice : Slice} {line : Line} (changed : slice.changed? = some line)
      : line.line = slice.line := by
    unfold Slice.changed? at changed
    split at changed
    · contradiction
    · rw [← Option.some.inj changed]
  refine ⟨_, changes_of_sorted new.sorted old.sorted, ?_, ?_⟩
  · rw [List.pairwise_map, List.pairwise_filterMap]
    refine cuts.ascending.imp fun {a b} less first isFirst second isSecond => ?_
    rw [kept isFirst, kept isSecond]
    exact less
  · intro line member
    obtain ⟨slice, examined, changed⟩ := List.mem_filterMap.mp member
    rw [kept changed]
    exact Slice.natural_all cuts rfl slice examined

/-- Encoding keeps the numbers of lines, by induction over them. -/
theorem EncodedLine.lines_of_ofLines {lines : List Line} {encoded : List EncodedLine}
    (lined : ofLines lines = .ok encoded)
    : encoded.map EncodedLine.line = lines.map Line.line := by
  have stands := ofLines_eq_ok.mp lined
  clear lined
  induction stands with
  | nil => rfl
  | cons here _ ih => rw [List.map_cons, List.map_cons, here.1, ih]

/-- A highlight of a resolved tree whose walk ends is compared with what its document had. It keeps
canonical tokens, and if it fails then because a line cannot be encoded.
-/
theorem HighlightRequest.commit_of_canonical (request : HighlightRequest)
    {base : Option Snapshot} {tree : Tree} (resolved : tree.Resolved) {found : Highlights}
    (highlighted : tree.highlights = .ok found)
    (canonical : Token.Canonical (Snapshot.baseline base))
    : (request.commit base tree).snapshot = some ⟨request.version, found.tokens⟩
      ∧ ((∃ fault, (request.commit base tree).answer = .error (.overflow fault))
        ∨ ∃ answer, (request.commit base tree).answer = .ok answer ∧ answer.Ascends) := by
  obtain ⟨lines, changes, ascending, natural⟩ :=
    Line.changes_of_canonical (resolved.canonical highlighted) canonical
  simp only [commit_of_highlights highlighted, commitFound, changes, true_and]
  split
  next fault _ => exact .inl ⟨fault, rfl⟩
  next encoded lined =>
    have numbers := EncodedLine.lines_of_ofLines lined
    refine .inr ⟨_, rfl, ?_, ?_⟩
    · rw [numbers]
      exact ascending
    · intro line member
      have number : line.line ∈ lines.map Line.line :=
        numbers ▸ List.mem_map_of_mem member
      obtain ⟨origin, present, same⟩ := List.mem_map.mp number
      exact same ▸ natural origin present

-----------------------------------------------------------------------------------------
-- Proper effects
-----------------------------------------------------------------------------------------

/-- A call ends with lines that ascend, or with a failure other than an unsorted list. -/
def Answer.Proper : Except Failure Answer → Prop
  | .ok (.highlighted answer) => answer.Ascends
  | .ok (.closed _) => True
  | .error (.unsorted _) => False
  | .error _ => True

/-- What a call publishes or ends with is proper. -/
def Stage.Proper : Stage Progress (Except Failure Answer) → Prop
  | .running (.publishing answer) => answer.Ascends
  | .ended answer => Answer.Proper answer
  | _ => True

/-- What an effect stores is canonical, and the answers that it tells are proper. -/
def Effect.Proper : Effect → Prop
  | .stored _ snapshot => Token.Canonical snapshot.tokens
  | .handed answer _ => answer.Ascends
  | .settled _ _ answer | .returned _ _ answer => Answer.Proper answer
  | .warned _ _ | .removed _ => True

/-- Proper effects leave canonical tokens, by induction over them. -/
theorem Effect.canonical_replay {uri : String} {effects : List Effect}
    (proper : ∀ effect ∈ effects, effect.Proper) {content : Option Snapshot}
    (canonical : ∀ snapshot, content = some snapshot → Token.Canonical snapshot.tokens)
    : ∀ snapshot,
        effects.foldl (replay uri) content = some snapshot
        → Token.Canonical snapshot.tokens := by
  induction effects generalizing content with
  | nil => exact canonical
  | cons effect rest ih =>
      obtain ⟨first, later⟩ := List.forall_mem_cons.mp proper
      rw [List.foldl_cons]
      refine ih later fun snapshot shown => ?_
      cases effect with
      | stored other kept =>
          rw [replay] at shown
          split at shown
          next => exact Option.some.inj shown ▸ first
          next => exact canonical snapshot shown
      | removed other =>
          rw [replay] at shown
          split at shown
          next => contradiction
          next => exact canonical snapshot shown
      | warned _ _ | handed _ _ | settled _ _ _ | returned _ _ _ =>
          exact canonical snapshot shown

/-- A move leads to a proper stage with proper effects. -/
structure Move.Proper (move : Move) : Prop where
  stage : move.stage.Proper
  effects : ∀ effect ∈ move.effects, effect.Proper

/-- A turn is proper: all that fails with it is a stale version or a document that is not open. -/
theorem Move.proper_ofTurn (store : Store) (request : Request) : (ofTurn store request).Proper := by
  cases request with
  | close uri =>
      rw [ofTurn]
      split
      · exact ⟨trivial, by simp⟩
      · exact ⟨trivial, by simp [Effect.Proper]⟩
  | highlight request =>
      rw [ofTurn]
      cases checked : request.checkVersion (store.get? request.uri) with
      | ok _ => exact ⟨trivial, by simp⟩
      | error failure =>
          refine ⟨?_, by simp⟩
          unfold HighlightRequest.checkVersion at checked
          split at checked
          · contradiction
          · split at checked
            · rw [← Except.error.inj checked]
              trivial
            · contradiction

/-- The end of a load is proper, if the tree is resolved and what it is compared with canonical. -/
theorem Move.proper_ofLoad (publishes : Bool) (store : Store) (request : HighlightRequest)
    {base : Option Snapshot} {tree : Except LoadFault Tree}
    (resolved : ∀ found, tree = .ok found → found.Resolved)
    (canonical : Token.Canonical (Snapshot.baseline base))
    : (ofLoad publishes store request base tree).Proper := by
  cases tree with
  | error fault => exact ⟨trivial, by simp [ofLoad]⟩
  | ok tree =>
      cases highlighted : tree.highlights with
      | error fault =>
          rw [ofLoad_of_endless publishes store request base highlighted]
          exact ⟨trivial, by simp⟩
      | ok found =>
          have tokens := (resolved tree rfl).canonical highlighted
          obtain ⟨kept, outcome⟩ :=
            HighlightRequest.commit_of_canonical request (resolved tree rfl) highlighted canonical
          have done
              : ∀ effect ∈ (request.commit base tree).diagnostics.map (Effect.warned request.uri)
                    ++ [Effect.stored request.uri ⟨request.version, found.tokens⟩],
                  effect.Proper := by
            refine List.forall_mem_append.mpr ⟨?_, List.forall_mem_singleton.mpr tokens⟩
            intro effect warned
            obtain ⟨place, _, rfl⟩ := List.mem_map.mp warned
            trivial
          rcases outcome with ⟨fault, failed⟩ | ⟨answer, answered, ascends⟩
          · rw [ofLoad_of_failure publishes store kept failed]
            exact ⟨trivial, done⟩
          · rw [ofLoad_of_answer publishes store kept answered]
            split
            next =>
              exact ⟨ascends,
                List.forall_mem_append.mpr ⟨done, List.forall_mem_singleton.mpr ascends⟩⟩
            next => exact ⟨ascends, done⟩

/-- The end of a publication is proper, if what was published was. -/
theorem Move.proper_ofResult (store : Store) {answer : Highlighted} (ascends : answer.Ascends)
    (result : Except String Unit)
    : (ofResult store answer result).Proper := by
  refine ⟨?_, by simp [ofResult]⟩
  cases result with
  | error message => trivial
  | ok _ => exact ascends

-----------------------------------------------------------------------------------------
-- Every step
-----------------------------------------------------------------------------------------

/-- Stored tokens are canonical, and so far calls and effects have been proper. -/
structure Service.Canonical (effects : List Effect) (service : Service) : Prop where
  stored
    : ∀ uri snapshot,
        service.store.get? uri = some snapshot → Token.Canonical snapshot.tokens
  calls : ∀ call ∈ service.queue.jobs, call.stage.Proper
  effects : ∀ effect ∈ effects, effect.Proper

namespace Service.Canonical

variable {publishes : Bool} {service : Service} {effects : List Effect}

theorem initial : Canonical [] .initial where
  stored := by simp [Service.initial]
  calls := by simp [Service.initial, Queue.empty]
  effects := by simp

/-- What a call that waits for its tree is compared with is canonical, since its document still has
it.
-/
theorem baseline (canonical : Canonical effects service) (sound : service.Sound) {call : Call}
    (member : call ∈ service.queue.jobs) {request : HighlightRequest} {base : Option Snapshot}
    (loading : call.stage = .running (.loading request base))
    : Token.Canonical (Snapshot.baseline base) := by
  obtain ⟨_, same, _⟩ := sound.loading call member request base loading
  exact Snapshot.canonical_tokens (same ▸ canonical.stored call.uri)

/-- A proper move keeps everything canonical: what it does to the store is among its effects. -/
theorem advance (canonical : Canonical effects service) {call : Call} {move : Move}
    (moves : service.Moves call move) (proper : move.Proper)
    : Canonical (effects ++ (service.advance call move).2) (service.advance call move).1 := by
  have told : ∀ effect ∈ (service.advance call move).2, effect.Proper := by
    refine List.forall_mem_append.mpr ⟨proper.effects, fun effect settled => ?_⟩
    have stage := proper.stage
    split at settled
    next answer ended =>
      rw [List.mem_singleton.mp settled]
      rw [ended] at stage
      exact stage
    next => contradiction
  constructor
  case stored =>
    intro uri
    rw [show (service.advance call move).1.store = move.store from rfl, ← moves.content uri]
    exact Effect.canonical_replay told (canonical.stored uri)
  case calls =>
    intro other present
    obtain ⟨old, kept, rfl⟩ := Queue.mem_advance present
    split
    next => exact proper.stage
    next => exact canonical.calls old kept
  case effects => exact List.forall_mem_append.mpr ⟨canonical.effects, told⟩

/-- Every step keeps everything canonical, if the tree that it brings is resolved. -/
theorem step (canonical : Canonical effects service) (sound : service.Sound) {event : Event}
    (resolved : ∀ ticket tree, event = .loaded ticket (.ok tree) → tree.Resolved)
    {result : Service × List Effect} (stepped : service.step publishes event = some result)
    : Canonical (effects ++ result.2) result.1 := by
  cases step_steps stepped with
  | arrive request =>
      refine ⟨canonical.stored, fun call present => ?_, by simpa using canonical.effects⟩
      rcases List.mem_append.mp present with earlier | newest
      · exact canonical.calls call earlier
      · rw [List.mem_singleton.mp newest]
        trivial
  | @start call member waiting free =>
      exact canonical.advance (sound.moves_start member waiting free) (Move.proper_ofTurn _ _)
  | @loaded call request base member loading tree =>
      have trees : ∀ found, tree = .ok found → found.Resolved := fun found shown =>
        resolved call.ticket found (shown ▸ rfl)
      exact canonical.advance (sound.moves_loaded member loading tree)
        (Move.proper_ofLoad publishes _ request trees (canonical.baseline sound member loading))
  | @published call answer member publishing outcome =>
      have ascends := canonical.calls call member
      rw [publishing] at ascends
      exact canonical.advance (sound.moves_published member publishing outcome)
        (Move.proper_ofResult _ ascends outcome)
  | @leave call answer member ended =>
      have proper := canonical.calls call member
      rw [ended] at proper
      exact ⟨canonical.stored,
        fun other present => canonical.calls other (List.mem_of_mem_filter present),
        List.forall_mem_append.mpr ⟨canonical.effects, List.forall_mem_singleton.mpr proper⟩⟩

/-- After every run everything is canonical, if all trees that were loaded are resolved. -/
theorem of_run {events : List Event} {result : Service × List Effect}
    (ran : Service.run publishes .initial events = some result)
    (resolved : ∀ ticket tree, .loaded ticket (.ok tree) ∈ events → tree.Resolved)
    : result.1.Sound ∧ Canonical result.2 result.1 := by
  have kept := Sound.of_run
    (fun events effects service =>
      (∀ ticket tree, .loaded ticket (.ok tree) ∈ events → tree.Resolved)
      → Canonical effects service)
    (fun _ => initial) ?_ ran
  · exact ⟨kept.1, kept.2 resolved⟩
  · intro events effects service event result sound canonical stepped resolved
    have before := canonical fun ticket tree member =>
      resolved ticket tree (List.mem_append_left _ member)
    refine before.step sound (fun ticket tree latest => ?_) stepped
    exact resolved ticket tree (latest ▸ List.mem_append_right _ (List.mem_singleton_self _))

end Service.Canonical

/-- In every state that is reached from no open document, whatever was asked for and in whatever
order calls went on, stored tokens are canonical. Therefore no tree is ever found out of order when
it is compared with what its document had, no call ends with such a fault, and the lines that are
published or returned ascend from 0.
-/
theorem Service.canonical_of_run {publishes : Bool} {events : List Event} {service : Service}
    {effects : List Effect}
    (ran : Service.run publishes .initial events = some (service, effects))
    (resolved : ∀ ticket tree, .loaded ticket (.ok tree) ∈ events → tree.Resolved)
    : (∀ uri snapshot,
        service.store.get? uri = some snapshot → Token.Canonical snapshot.tokens)
      ∧ (∀ call ∈ service.queue.jobs,
          ∀ request base,
            call.stage = .running (.loading request base)
            → ∀ tree : Tree,
                tree.Resolved
                → ∀ found,
                    tree.highlights = .ok found
                    → ∃ lines,
                        Line.changes found.tokens (Snapshot.baseline base) = .ok lines)
      ∧ (∀ uri ticket fault,
          .settled uri ticket (.error (.unsorted fault)) ∉ effects
          ∧ .returned uri ticket (.error (.unsorted fault)) ∉ effects)
      ∧ (∀ uri ticket answer,
          .returned uri ticket (.ok (.highlighted answer)) ∈ effects → answer.Ascends)
      ∧ ∀ answer isOpen, .handed answer isOpen ∈ effects → answer.Ascends := by
  obtain ⟨sound, canonical⟩ := Service.Canonical.of_run ran resolved
  have proper := canonical.effects
  refine ⟨canonical.stored, ?_, ?_, ?_, ?_⟩
  · intro call member request base loading tree resolved found highlighted
    have previous := canonical.baseline sound member loading
    obtain ⟨lines, compared, _⟩ :=
      Line.changes_of_canonical (resolved.canonical highlighted) previous
    exact ⟨lines, compared⟩
  · intro uri ticket fault
    exact ⟨fun settled => proper _ settled, fun returned => proper _ returned⟩
  · exact fun uri ticket answer returned => proper _ returned
  · exact fun answer isOpen handed => proper _ handed

/-- A document whose macro stops before it starts, and a new version of it that waits for its tree.
-/
def Service.backward : List Event :=
  [.arrive (.highlight ⟨"main.cpp", .ofInt 1, "first.json"⟩), .start 0,
    .loaded 0 (.ok (.ofMacro 2 5 3)), .leave 0,
    .arrive (.highlight ⟨"main.cpp", .ofInt 2, "second.json"⟩), .start 1]

/-- The answer to the first call, if it is a highlight of the document that has succeeded. -/
def Effect.answeredFirst? (uri : String) (effect : Effect) : Option Highlighted :=
  match effect.returned? uri with
  | some (0, .ok (.highlighted answer)) => some answer
  | _ => none

theorem Effect.eq_of_answeredFirst {uri : String} {effect : Effect} {answer : Highlighted}
    (answered : effect.answeredFirst? uri = some answer)
    : effect = .returned uri 0 (.ok (.highlighted answer)) := by
  unfold answeredFirst? at answered
  split at answered
  next found =>
    cases effect <;> simp_all [returned?]
  next => contradiction

/-- The snapshot of that document is canonical, so the new version can be compared with it. -/
theorem Service.canonical_of_run_backward
    : ∃ service effects,
        Service.run false .initial backward = some (service, effects)
        ∧ (∃ snapshot,
            service.store.get? "main.cpp" = some snapshot ∧ Token.Canonical snapshot.tokens)
        ∧ (∃ call ∈ service.queue.jobs, ∃ request base found lines,
            call.stage = .running (.loading request base)
            ∧ (Tree.ofMacro 2 0 3).highlights = .ok found
            ∧ Line.changes found.tokens (Snapshot.baseline base) = .ok lines)
        ∧ ∃ answer, .returned "main.cpp" 0 (.ok (.highlighted answer)) ∈ effects ∧ answer.Ascends := by
  have runs
      : (Service.run false .initial backward).any (fun result =>
          (result.1.store.get? "main.cpp").isSome
            && result.1.queue.jobs.any (fun call => stepsLeft call = 3)
            && (result.2.findSome? (Effect.answeredFirst? "main.cpp")).isSome) = true := by
    cbv
  obtain ⟨⟨service, effects⟩, ran, checked⟩ := (Option.any_eq_true _ _).mp runs
  simp only [Bool.and_eq_true, List.any_eq_true, decide_eq_true_eq] at checked
  obtain ⟨⟨isOpen, call, member, waits⟩, answers⟩ := checked
  have resolved : ∀ ticket tree, .loaded ticket (.ok tree) ∈ backward → tree.Resolved := by
    intro ticket tree member
    simp only [backward, List.mem_cons, reduceCtorEq, Event.loaded.injEq, Except.ok.injEq,
      List.not_mem_nil, false_or, or_false] at member
    obtain ⟨_, rfl⟩ := member
    exact Tree.resolved_ofMacro (by decide) (by decide) (by decide)
  obtain ⟨stored, compared, _, returned, _⟩ := Service.canonical_of_run ran resolved
  obtain ⟨snapshot, present⟩ := Option.isSome_iff_exists.mp isOpen
  refine ⟨service, effects, ran, ⟨snapshot, present, stored _ snapshot present⟩, ?_, ?_⟩
  · obtain ⟨request, base, loading⟩
        : ∃ request base, call.stage = .running (.loading request base) := by
      unfold stepsLeft at waits
      split at waits
      next => contradiction
      next request base loading => exact ⟨request, base, loading⟩
      next => contradiction
      next => contradiction
    have highlighted := Tree.highlights_ofMacro 2 0 3
    obtain ⟨lines, changes⟩ := compared call member request base loading (.ofMacro 2 0 3)
      (Tree.resolved_ofMacro (by decide) (by decide) (by decide)) _ highlighted
    exact ⟨call, member, request, base, _, lines, loading, highlighted, changes⟩
  · obtain ⟨answer, found⟩ := Option.isSome_iff_exists.mp answers
    obtain ⟨effect, told, first⟩ := List.exists_of_findSome?_eq_some found
    obtain rfl := Effect.eq_of_answeredFirst first
    exact ⟨answer, told, returned _ _ answer told⟩

end Highlighter
