import Highlighter.Proofs.Token.Order
import Highlighter.Token.Collect
import Mathlib.Data.List.SplitBy
import Mathlib.Data.List.TakeWhile

/-! What is collected from raw tokens and macro ranges. Sorting brings the tokens of one range
together, so repetitions are neighbours and a range with several kinds is one run. The canonical
set ascends strictly by range, and holds a token exactly if nothing else was asked for its range.
-/

namespace Highlighter.Token

-----------------------------------------------------------------------------------------
-- Repetitions
-----------------------------------------------------------------------------------------

/-- The loop over a list goes on as the list without repetitions does, by induction over it. -/
theorem eraseReps_loop (token : Token) (tokens kept : List Token)
    : List.eraseRepsBy.loop (· == ·) token tokens kept
      = kept.reverse ++ (token :: tokens).eraseReps := by
  rw [List.eraseReps, List.eraseRepsBy]
  induction tokens generalizing token kept with
  | nil => simp [List.eraseRepsBy.loop]
  | cons next rest ih =>
      simp only [List.eraseRepsBy.loop]
      split
      · exact ih token kept
      · rw [ih next (token :: kept), ih next [token]]
        simp

/-- Of two equal neighbours the first one stays. -/
theorem eraseReps_cons_cons (token next : Token) (rest : List Token)
    : (token :: next :: rest).eraseReps
      = if token = next then (token :: rest).eraseReps
        else token :: (next :: rest).eraseReps := by
  show List.eraseRepsBy.loop (· == ·) token (next :: rest) [] = _
  rw [List.eraseRepsBy.loop, eraseReps_loop, eraseReps_loop]
  by_cases same : token = next
  · simp [same]
  · simp [same, beq_eq_false_iff_ne.mpr same]

/-- No token is lost with its repetitions. -/
theorem mem_eraseReps {token : Token} {tokens : List Token}
    : token ∈ tokens.eraseReps ↔ token ∈ tokens := by
  cases tokens with
  | nil => rfl
  | cons first rest =>
      induction rest generalizing first with
      | nil => rfl
      | cons next rest ih =>
          rw [eraseReps_cons_cons]
          split
          next same => simp [ih, same]
          next => rw [List.mem_cons, ih, List.mem_cons (b := first)]

/-- A sorted list without repetitions is strict: a token that differs from its successor stands
before it, and so before all that follow.
-/
theorem Sorted.strict_eraseReps {tokens : List Token} (sorted : Sorted tokens)
    : Strict tokens.eraseReps := by
  cases tokens with
  | nil => exact .nil
  | cons first rest =>
      induction rest generalizing first with
      | nil => exact List.pairwise_singleton _ _
      | cons next rest ih =>
          obtain ⟨before, later⟩ := List.pairwise_cons.mp sorted
          rw [eraseReps_cons_cons]
          split
          next =>
            exact ih first (List.pairwise_cons.mpr
              ⟨fun other member => before other (List.mem_cons_of_mem _ member), later.tail⟩)
          next different =>
            have less := lt_of_atMost_of_ne (before next List.mem_cons_self) different
            refine List.pairwise_cons.mpr ⟨fun other member => ?_, ih next later⟩
            rcases List.mem_cons.mp (mem_eraseReps.mp member) with rfl | beyond
            · exact less
            · exact Std.TransCmp.lt_of_lt_of_isLE less
                ((List.pairwise_cons.mp later).1 other beyond)

-----------------------------------------------------------------------------------------
-- Conflicts
-----------------------------------------------------------------------------------------

/-- A list without conflicts is decided run by run: one token of a range stays, several go. -/
theorem dropConflicts_run {token : Token} {run rest : List Token}
    (same : ∀ other ∈ run, other.range = token.range)
    (apart : ∀ other ∈ rest, other.range ≠ token.range)
    : dropConflicts (token :: (run ++ rest))
      = (if run = [] then [token] else []) ++ dropConflicts rest := by
  have alike : ∀ other ∈ token :: run, other.range = token.range :=
    List.forall_mem_cons.mpr ⟨rfl, same⟩
  have whole : (token :: run).splitBy (fun a b => a.range == b.range) = [token :: run] := by
    refine List.splitBy_of_isChain (List.cons_ne_nil _ _) (List.Pairwise.isChain ?_)
    refine List.pairwise_of_forall_mem_list fun a first b second => ?_
    rw [beq_iff_eq, alike a first, alike b second]
  have cut := List.splitBy_append (r := fun a b : Token => a.range == b.range) (l := token :: run)
    (m := rest) fun last isLast head isHead => by
      rw [beq_eq_false_iff_ne, alike last (List.mem_of_mem_getLast? isLast)]
      exact (apart head (List.mem_of_mem_head? isHead)).symm
  rw [dropConflicts, ← List.cons_append, cut, whole]
  by_cases alone : run = [] <;> simp [dropConflicts, alone]

/-- A strict list starts with the run of its first range, which no later token has: the range after
the run is a greater one, and ranges do not descend from there.
-/
theorem Strict.exists_run {first : Token} {rest : List Token} (strict : Strict (first :: rest))
    : ∃ run later,
        rest = run ++ later
        ∧ (∀ other ∈ run, other.range = first.range)
        ∧ ∀ other ∈ later, other.range ≠ first.range := by
  refine ⟨rest.takeWhile (·.range = first.range), rest.dropWhile (·.range = first.range),
    List.takeWhile_append_dropWhile.symm, ?_, ?_⟩
  · intro other member
    simpa using List.mem_takeWhile_imp member
  · have head := List.head?_dropWhile_not (fun other : Token => other.range = first.range) rest
    have ordered := strict.sublist
      ((List.dropWhile_sublist fun other : Token => other.range = first.range).cons_cons first)
    generalize rest.dropWhile (fun other => other.range = first.range) = later at head ordered
    cases later with
    | nil => simp
    | cons next later =>
        obtain ⟨beyond, after⟩ := List.pairwise_cons.mp ordered
        have apart : next.range ≠ first.range := by simpa using head
        have less := (range_of_lt (beyond next List.mem_cons_self)).resolve_right apart.symm
        refine List.forall_mem_cons.mpr ⟨apart, fun other member same => ?_⟩
        rcases range_of_lt ((List.pairwise_cons.mp after).1 other member) with more | equal
        · rw [same] at more
          exact Std.OrientedCmp.not_lt_of_lt less more
        · exact apart (equal.trans same)

/-- A token of a strict list is without conflicts exactly if no other has its range, by induction
over the runs.
-/
theorem mem_dropConflicts {tokens : List Token} (strict : Strict tokens) (token : Token)
    : token ∈ dropConflicts tokens
      ↔ token ∈ tokens ∧ ∀ other ∈ tokens, other.range = token.range → other = token := by
  match tokens, strict with
  | [], _ => simp [dropConflicts]
  | first :: rest, strict =>
      obtain ⟨run, later, whole, same, apart⟩ := strict.exists_run
      have part : later.Sublist rest := whole ▸ List.sublist_append_right run later
      have ih := mem_dropConflicts (strict.sublist (part.cons first)) token
      subst whole
      rw [dropConflicts_run same apart, List.mem_append, ih]
      constructor
      · rintro (here | ⟨member, alone⟩)
        · obtain ⟨rfl, rfl⟩ : run = [] ∧ token = first := by
            split at here
            next empty => exact ⟨empty, List.mem_singleton.mp here⟩
            next => contradiction
          refine ⟨List.mem_cons_self, List.forall_mem_cons.mpr ⟨fun _ => rfl, ?_⟩⟩
          exact fun other member equal => absurd equal (apart other member)
        · -- What has the range of a later token is later itself.
          refine ⟨List.mem_cons_of_mem _ (List.mem_append_right _ member), ?_⟩
          refine List.forall_mem_cons.mpr ⟨fun equal => ?_, List.forall_mem_append.mpr ⟨?_, alone⟩⟩
          · exact absurd equal.symm (apart token member)
          · intro other inRun equal
            exact absurd (equal.symm.trans (same other inRun)) (apart token member)
      · rintro ⟨member, alone⟩
        obtain ⟨aloneFirst, aloneRest⟩ := List.forall_mem_cons.mp alone
        obtain ⟨aloneRun, aloneLater⟩ := List.forall_mem_append.mp aloneRest
        have distinct : ∀ other ∈ run, first ≠ other := fun other inRun =>
          ne_of_lt ((List.pairwise_cons.mp strict).1 other (List.mem_append_left _ inRun))
        rcases List.mem_cons.mp member with rfl | inRest
        · have empty : run = [] := by
            refine List.eq_nil_iff_forall_not_mem.mpr fun other inRun => ?_
            exact distinct other inRun (aloneRun other inRun (same other inRun)).symm
          exact .inl (by simp [empty])
        · rcases List.mem_append.mp inRest with inRun | inLater
          · exact absurd (aloneFirst (same token inRun).symm) (distinct token inRun)
          · exact .inr ⟨inLater, aloneLater⟩
termination_by tokens.length
decreasing_by exact Nat.lt_succ_of_le part.length_le

/-- The tokens without conflicts are a part of the list: each run of one range is kept or not. -/
theorem dropConflicts_sublist (tokens : List Token)
    : (dropConflicts tokens).Sublist tokens := by
  have runs (parts : List (List Token))
      : (parts.flatMap fun run => if run.length = 1 then run else []).Sublist parts.flatten := by
    induction parts with
    | nil => exact .slnil
    | cons run rest ih =>
        rw [List.flatMap_cons, List.flatten_cons]
        refine List.Sublist.append ?_ ih
        split
        · exact .refl run
        · exact List.nil_sublist run
  simpa only [dropConflicts, List.flatten_splitBy] using
    runs (tokens.splitBy fun a b => a.range == b.range)

-----------------------------------------------------------------------------------------
-- Collected tokens
-----------------------------------------------------------------------------------------

/-- What is asked for: the raw tokens, and the ranges of macros as such. -/
def asked (raw : List Token) (macros : List Range) : List Token :=
  raw ++ macros.map (ofKind .macroName)

variable {raw : List Token} {macros : List Range} {token : Token}

/-- A token is collected exactly if it is asked for and nothing else is for its range. -/
theorem mem_collect
    : token ∈ collect raw macros
      ↔ token ∈ asked raw macros
        ∧ ∀ other ∈ asked raw macros, other.range = token.range → other = token := by
  have kept (other : Token)
      : other ∈ (sort (asked raw macros)).eraseReps ↔ other ∈ asked raw macros :=
    mem_eraseReps.trans List.mem_mergeSort
  rw [collect, ← asked, mem_dropConflicts (sorted_sort _).strict_eraseReps]
  simp only [kept]

/-- Collected tokens ascend by range: two that are not in this order would have one range. -/
theorem ascending_collect (raw : List Token) (macros : List Range)
    : (collect raw macros).Pairwise fun a b => a.range.compare b.range = .lt := by
  have strict : Strict (collect raw macros) :=
    (sorted_sort _).strict_eraseReps.sublist (dropConflicts_sublist _)
  refine strict.imp_of_mem fun {a b} first second less => ?_
  refine (range_of_lt less).resolve_right fun same => ?_
  exact ne_of_lt less ((mem_collect.mp second).2 a (mem_collect.mp first).1 same)

/-- Whatever is collected is sorted, since ranges are compared first. -/
theorem sorted_collect (raw : List Token) (macros : List Range)
    : Sorted (collect raw macros) := by
  refine (ascending_collect raw macros).imp fun {a b} less => ?_
  rw [atMost, Token.compare, less]
  rfl

/-- Whatever is collected was emitted or is the range of a macro. -/
theorem mem_of_mem_collect (member : token ∈ collect raw macros)
    : token ∈ raw ∨ ∃ range ∈ macros, ofKind .macroName range = token := by
  simpa [asked] using (mem_collect.mp member).1

/-- Collecting gives a list that ascends strictly by range, so that no two tokens share one. A token
is in it exactly if it was emitted or is a macro, and every such token of its range has its kind.
-/
theorem collect_canonical (raw : List Token) (macros : List Range)
    : ((collect raw macros).Pairwise fun a b => a.range.compare b.range = .lt)
      ∧ ((collect raw macros).map Token.range).Nodup
      ∧ ∀ token,
          token ∈ collect raw macros
          ↔ token ∈ raw ++ macros.map (ofKind .macroName)
            ∧ ∀ other ∈ raw ++ macros.map (ofKind .macroName),
                other.range = token.range → other.kind = token.kind := by
  have ascending := ascending_collect raw macros
  refine ⟨ascending, List.pairwise_map.mpr (ascending.imp Range.ne_of_lt), fun token => ?_⟩
  refine mem_collect.trans (and_congr_right fun _ => forall₂_congr fun other _ => ?_)
  refine forall_congr' fun ranges => ⟨fun same => by rw [same], fun kinds => ?_⟩
  obtain ⟨_, _⟩ := other
  obtain ⟨_, _⟩ := token
  rw [Token.mk.injEq]
  exact ⟨kinds, ranges⟩

/-- A name under a macro goes with it, and a name that was visited twice stays once. -/
example
    : collect
        [.ofKind .function (.between 2 0 2 4), .ofKind .parameter (.between 0 0 0 3),
          .ofKind .parameter (.between 0 0 0 3)]
        [.between 2 0 2 4, .between 4 0 4 2]
      = [.ofKind .parameter (.between 0 0 0 3), .ofKind .macroName (.between 4 0 4 2)] := by
  cbv

end Highlighter.Token
