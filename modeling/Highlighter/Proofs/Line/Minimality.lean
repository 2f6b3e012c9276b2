import Highlighter.Proofs.Line.Patching

/-! Changes are minimal: a line is changed exactly if the old and the new tokens differ on it, and
then its record has all tokens that it has now. So whatever else turns the old lines into the new
ones has to replace the changed lines too, and lists without a changed line are equal.
-/

namespace Highlighter

namespace Token

variable {tokens others : List Token}

/-- What a line has on it tells which tokens start there. -/
theorem on_eq_of_content_eq {line : Int} (same : content line tokens = content line others)
    : on line tokens = on line others := by
  unfold content at same
  split at same
  next empty =>
    split at same
    next alsoEmpty => rw [List.isEmpty_iff.mp empty, List.isEmpty_iff.mp alsoEmpty]
    next => contradiction
  next =>
    split at same
    next => contradiction
    next => exact Option.some.inj same

/-- Sorted lists with the same tokens on every line are equal: each token is counted on its own
line, and what is sorted stands in one order only.
-/
theorem Sorted.eq_of_on (sorted : Sorted tokens) (sortedOthers : Sorted others)
    (same : ∀ line, on line tokens = on line others)
    : tokens = others := by
  have counted (token : Token) (list : List Token)
      : (on token.line list).count token = list.count token :=
    List.count_filter (decide_eq_true rfl)
  have permuted : tokens.Perm others :=
    List.perm_iff_count.mpr fun token => by
      rw [← counted token tokens, ← counted token others, same]
  refine permuted.eq_of_pairwise (fun a b _ _ before after => ?_) sorted sortedOthers
  exact compare_eq_iff.mp (Std.OrientedCmp.isLE_antisymm before after)

end Token

/-- A line with something else on it after some records is the line of one of them. -/
theorem Sheet.mem_of_patch {α : Type} (sheet : Sheet α) {records : List (Int × Option α)}
    {line : Int} (different : (sheet.patch records)[line]? ≠ sheet[line]?)
    : line ∈ records.map Prod.fst := by
  by_contra absent
  refine different (getElem?_patch_of_ne (fun record member same => ?_) sheet)
  exact absent (List.mem_map.mpr ⟨record, member, same⟩)

namespace Line

/-- Sheets that list the same lines are equal. -/
theorem ofSheet_injective {sheet other : Sheet (List Token)} (same : ofSheet sheet = ofSheet other)
    : sheet = other := by
  have entry {a b : Int × List Token} (equal : (⟨a.1, a.2⟩ : Line) = ⟨b.1, b.2⟩) : a = b :=
    Prod.ext (congrArg Line.line equal) (congrArg Line.tokens equal)
  exact Std.ExtTreeMap.toList_inj.mp ((List.map_inj_right fun _ _ => entry).mp same)

end Line

/-- A line is changed exactly if both lists differ on it, and has its new tokens then: a token on
either side is in a slice, whose sides are all that the lists have on the line.
-/
theorem Slice.Cuts.mem_changed {next previous : List Token} {slices : List Slice}
    (cuts : Cuts next previous slices) {record : Line}
    : record ∈ slices.filterMap changed?
      ↔ Token.on record.line next ≠ Token.on record.line previous
        ∧ record.tokens = Token.on record.line next := by
  rw [List.mem_filterMap]
  constructor
  · rintro ⟨slice, examined, isChanged⟩
    obtain ⟨different, rfl⟩ := changed?_eq_some.mp isChanged
    rw [cuts.onNext slice examined, cuts.onPrevious slice examined] at different
    exact ⟨different, cuts.onNext slice examined⟩
  · rintro ⟨different, whole⟩
    obtain ⟨slice, examined, same⟩ : ∃ slice ∈ slices, slice.line = record.line := by
      by_contra absent
      have nothing := cuts.content_eq_none fun slice examined same =>
        absent ⟨slice, examined, same⟩
      exact different (Token.on_eq_of_content_eq (nothing.1.trans nothing.2.symm))
    rw [← same] at different whole
    rw [← cuts.onNext slice examined, ← cuts.onPrevious slice examined] at different
    rw [← cuts.onNext slice examined] at whole
    refine ⟨slice, examined, changed?_eq_some.mpr ⟨different, ?_⟩⟩
    rw [same, ← whole]

/-- Two sorted lists of tokens on lines from 0 on can be compared. Their changed lines ascend, are
those that the lists differ on, and have their new tokens. Any records that turn the old lines into
the new ones are for all of the changed lines, and no line is changed exactly if the lists are
equal.
-/
theorem Line.changes_minimal {next previous : List Token}
    (sortedNext : Token.Sorted next) (sortedPrevious : Token.Sorted previous)
    (least : ∀ token ∈ next ++ previous, 0 ≤ token.line)
    : ∃ changed,
        changes next previous = .ok changed
        ∧ (changed.Pairwise fun a b => a.line < b.line)
        ∧ (∀ line, line ∈ changed.map Line.line
            ↔ Token.on line next ≠ Token.on line previous)
        ∧ (∀ record ∈ changed, record.tokens = Token.on record.line next)
        ∧ (∀ records : List (Int × Option (List Token)),
            ofSheet ((sheet (group previous)).patch records) = group next
            → changed.map Line.line ⊆ records.map Prod.fst)
        ∧ (changed = [] ↔ next = previous) := by
  have cuts := Slice.cuts_all sortedNext.lines sortedPrevious.lines least
  have groupsNext := group_groups sortedNext.lines
  have groupsPrevious := group_groups sortedPrevious.lines
  refine ⟨_, changes_of_sorted sortedNext sortedPrevious, ?_⟩
  generalize changedLines : (Slice.all next previous).filterMap Slice.changed? = changed
  have whole : ∀ record ∈ changed, record.tokens = Token.on record.line next := by
    rw [← changedLines]
    exact fun record member => (cuts.mem_changed.mp member).2
  have reported (line : Int)
      : line ∈ changed.map Line.line ↔ Token.on line next ≠ Token.on line previous := by
    rw [← changedLines, List.mem_map]
    constructor
    · rintro ⟨record, member, rfl⟩
      exact (cuts.mem_changed.mp member).1
    · intro different
      exact ⟨⟨line, Token.on line next⟩, cuts.mem_changed.mpr ⟨different, rfl⟩, rfl⟩
  refine ⟨changedLines ▸ Slice.ascending_changed cuts.ascending, reported, whole, ?_, ?_⟩
  · intro records turned line isChanged
    have different := (reported line).mp isChanged
    have amended := ofSheet_injective (turned.trans groupsNext.ofSheet_sheet.symm)
    refine Sheet.mem_of_patch (sheet (group previous)) fun kept => ?_
    refine different (Token.on_eq_of_content_eq ?_)
    rwa [amended, groupsNext.getElem?_sheet, groupsPrevious.getElem?_sheet] at kept
  · constructor
    · rintro rfl
      refine sortedNext.eq_of_on sortedPrevious fun line => ?_
      by_contra different
      exact List.not_mem_nil ((reported line).mpr different)
    · rintro rfl
      refine List.eq_nil_iff_forall_not_mem.mpr fun record member => ?_
      exact (reported record.line).mp (List.mem_map_of_mem member) rfl

/-- Lines that are new, gone and changed are reported, and the one that stayed is not. -/
theorem Line.changes_minimal_revision
    : Token.Sorted Token.revision
      ∧ Token.Sorted Token.draft
      ∧ (∀ token ∈ Token.revision ++ Token.draft, 0 ≤ token.line)
      ∧ ∃ changed,
          changes Token.revision Token.draft = .ok changed
          ∧ changed.map Line.line = [0, 1, 2]
          ∧ ∀ records : List (Int × Option (List Token)),
              ofSheet ((sheet (group Token.draft)).patch records) = group Token.revision
              → [0, 1, 2] ⊆ records.map Prod.fst := by
  have sortedNext : Token.Sorted Token.revision := by
    unfold Token.Sorted
    decide
  have sortedPrevious : Token.Sorted Token.draft := by
    unfold Token.Sorted
    decide
  have least : ∀ token ∈ Token.revision ++ Token.draft, 0 ≤ token.line := by decide
  obtain ⟨changed, compared, -, -, -, minimal, -⟩ :=
    changes_minimal sortedNext sortedPrevious least
  have listed : changed.map Line.line = [0, 1, 2] := by
    have lines : (changes Token.revision Token.draft).toOption.map (List.map Line.line)
        = some [0, 1, 2] := by decide +kernel
    rw [compared] at lines
    exact Option.some.inj lines
  exact ⟨sortedNext, sortedPrevious, least, changed, compared, listed, listed ▸ minimal⟩

end Highlighter
