import Highlighter.Line.Sheet
import Highlighter.Proofs.Line.Grouping
import Highlighter.Proofs.Token.Order

/-! Changes are complete: the lines of an old list of tokens, amended by the changed lines, are the
lines of the new list. A line is changed exactly when the two lists differ on it, whether it is
one of both lists, of one of them only, or of none.
-/

namespace Highlighter

/-- What a line of a list has on it; nothing, if no token starts there. -/
def Token.content (line : Int) (tokens : List Token) : Option (List Token) :=
  if (Token.on line tokens).isEmpty then none else some (Token.on line tokens)

/-- A slice is changed if its sides differ, and then has what is on the new side. -/
theorem Slice.changed?_eq_some {slice : Slice} {line : Line}
    : slice.changed? = some line
      ↔ slice.next ≠ slice.previous ∧ line = ⟨slice.line, slice.next⟩ := by
  simp only [changed?]
  split
  next same => simp [same]
  next different => simp [different, eq_comm]

namespace Line

/-- A sheet has on each line what the tokens that it groups have there. -/
theorem Groups.getElem?_sheet {tokens : List Token} {lines : List Line}
    (groups : Groups tokens lines) (line : Int)
    : (sheet lines)[line]? = Token.content line tokens := by
  have ascending : (lines.map fun line => (line.line, line.tokens)).Pairwise
      fun a b => a.1 < b.1 :=
    List.pairwise_map.mpr groups.ascending
  by_cases present : ∃ entry ∈ lines, entry.line = line
  · obtain ⟨entry, member, rfl⟩ := present
    have whole := groups.whole entry member
    have occupied := groups.occupied entry member
    have listed : (sheet lines)[entry.line]? = some entry.tokens :=
      (Sheet.getElem?_ofList ascending).mpr (List.mem_map.mpr ⟨entry, member, rfl⟩)
    rw [listed, Token.content, ← whole, if_neg (by simpa using occupied)]
  · have absent : Token.on line tokens = [] :=
      Token.on_eq_nil fun token member start => by
        obtain ⟨entry, inside, same⟩ := groups.covered token member
        exact present ⟨entry, inside, same.trans start⟩
    have unlisted : (sheet lines)[line]? = none := by
      refine Option.eq_none_iff_forall_ne_some.mpr fun content listed => ?_
      obtain ⟨entry, member, same⟩ := List.mem_map.mp ((Sheet.getElem?_ofList ascending).mp listed)
      exact present ⟨entry, member, congrArg Prod.fst same⟩
    rw [unlisted, Token.content, absent]
    rfl

/-- The lines of a grouping are those of its sheet. -/
theorem Groups.ofSheet_sheet {tokens : List Token} {lines : List Line}
    (groups : Groups tokens lines)
    : ofSheet (sheet lines) = lines := by
  have ascending : (lines.map fun line => (line.line, line.tokens)).Pairwise
      fun a b => a.1 < b.1 :=
    List.pairwise_map.mpr groups.ascending
  rw [ofSheet, sheet, Sheet.toList_ofList ascending, List.map_map]
  exact List.map_id lines

/-- Two sorted lists can be compared, each of them having no first unsorted token. -/
theorem changes_of_sorted {next previous : List Token} (sortedNext : Token.Sorted next)
    (sortedPrevious : Token.Sorted previous)
    : changes next previous = .ok ((Slice.all next previous).filterMap Slice.changed?) := by
  simp [changes, Unsorted.find?, sortedNext.firstUnsorted, sortedPrevious.firstUnsorted]

/-- Changed lines have tokens of the new list only. -/
theorem mem_of_changes {next previous : List Token} {lines : List Line}
    (compared : changes next previous = .ok lines)
    : ∀ line ∈ lines, ∀ token ∈ line.tokens, token ∈ next := by
  unfold changes at compared
  split at compared
  · contradiction
  · contradiction
  · rw [← Except.ok.inj compared]
    intro line member token inside
    obtain ⟨slice, examined, isLine⟩ := List.mem_filterMap.mp member
    rw [(Slice.changed?_eq_some.mp isLine).2] at inside
    exact Slice.next_subset slice examined inside

end Line

namespace Slice

/-- Changed lines ascend with their slices. -/
theorem ascending_changed {slices : List Slice}
    (ascending : slices.Pairwise fun a b => a.line < b.line)
    : (slices.filterMap changed?).Pairwise fun a b => a.line < b.line := by
  refine ascending.filterMap changed? fun a b less first isFirst second isSecond => ?_
  rw [(changed?_eq_some.mp isFirst).2, (changed?_eq_some.mp isSecond).2]
  exact less

/-- A line that no slice stands on has nothing on either side. -/
theorem Cuts.content_eq_none {next previous : List Token} {slices : List Slice}
    (cuts : Cuts next previous slices) {line : Int}
    (absent : ∀ slice ∈ slices, slice.line ≠ line)
    : Token.content line next = none ∧ Token.content line previous = none := by
  have off : ∀ token ∈ next ++ previous, token.line ≠ line := by
    intro token member start
    obtain ⟨slice, present, same⟩ := cuts.covered token member
    exact absent slice present (same.trans start)
  obtain ⟨offNext, offPrevious⟩ := List.forall_mem_append.mp off
  rw [Token.content, Token.content, Token.on_eq_nil offNext, Token.on_eq_nil offPrevious]
  exact ⟨rfl, rfl⟩

/-- Amending the sheet of the old tokens by the changed lines gives the sheet of the new ones, line
by line: a line has a record exactly if its slice is changed, and both sides have what is unchanged.
-/
theorem Cuts.patch_sheet {next previous : List Token} {slices : List Slice}
    (cuts : Cuts next previous slices) {before after : List Line}
    (groupsBefore : Line.Groups previous before) (groupsAfter : Line.Groups next after)
    : (Line.sheet before).patch ((slices.filterMap changed?).map Line.record)
      = Line.sheet after := by
  have distinct : ((slices.filterMap changed?).map Line.record).Pairwise fun a b => a.1 ≠ b.1 :=
    List.pairwise_map.mpr ((ascending_changed cuts.ascending).imp Int.ne_of_lt)
  refine Std.ExtTreeMap.ext_getElem? fun line => ?_
  rw [groupsAfter.getElem?_sheet]
  by_cases changed : ∃ slice ∈ slices, slice.line = line ∧ slice.next ≠ slice.previous
  · obtain ⟨slice, member, rfl, different⟩ := changed
    have recorded : Line.record ⟨slice.line, slice.next⟩
        ∈ (slices.filterMap changed?).map Line.record :=
      List.mem_map_of_mem (List.mem_filterMap.mpr
        ⟨slice, member, changed?_eq_some.mpr ⟨different, rfl⟩⟩)
    have amended := Sheet.getElem?_patch_of_mem distinct recorded (Line.sheet before)
    rw [Line.record, cuts.onNext slice member] at amended
    exact amended
  · have unrecorded : ∀ record ∈ (slices.filterMap changed?).map Line.record,
        record.1 ≠ line := by
      intro record member start
      obtain ⟨entry, present, rfl⟩ := List.mem_map.mp member
      obtain ⟨slice, inside, isChanged⟩ := List.mem_filterMap.mp present
      obtain ⟨different, rfl⟩ := changed?_eq_some.mp isChanged
      exact changed ⟨slice, inside, start, different⟩
    rw [Sheet.getElem?_patch_of_ne unrecorded, groupsBefore.getElem?_sheet]
    by_cases examined : ∃ slice ∈ slices, slice.line = line
    · obtain ⟨slice, member, rfl⟩ := examined
      have same : slice.next = slice.previous :=
        Classical.not_not.mp fun different => changed ⟨slice, member, rfl, different⟩
      rw [Token.content, Token.content, ← cuts.onNext slice member, same,
        ← cuts.onPrevious slice member]
    · have nothing := cuts.content_eq_none fun slice member start =>
        examined ⟨slice, member, start⟩
      rw [nothing.1, nothing.2]

end Slice

/-- Two sorted lists of tokens on lines from 0 on can be compared, and their changed lines turn the
lines of the old list into those of the new one.
-/
theorem Line.ofSheet_patch_changes {next previous : List Token}
    (sortedNext : Token.Sorted next) (sortedPrevious : Token.Sorted previous)
    (least : ∀ token ∈ next ++ previous, 0 ≤ token.line)
    : ∃ changed,
        changes next previous = .ok changed
        ∧ ofSheet ((sheet (group previous)).patch (changed.map record)) = group next := by
  have cuts := Slice.cuts_all sortedNext.lines sortedPrevious.lines least
  have groups := group_groups sortedNext.lines
  refine ⟨_, changes_of_sorted sortedNext sortedPrevious, ?_⟩
  rw [cuts.patch_sheet (group_groups sortedPrevious.lines) groups]
  exact groups.ofSheet_sheet

/-- Tokens on the lines 1, 2 and 4 of a document. -/
def Token.draft : List Token :=
  [.ofKind .parameter (.between 1 0 1 3), .ofKind .function (.between 2 0 2 4),
    .ofKind .parameter (.between 2 5 2 6), .ofKind .macroName (.between 4 0 4 2)]

/-- The document's tokens later: new on line 0, gone from line 1, fewer on line 2. -/
def Token.revision : List Token :=
  [.ofKind .parameter (.between 0 0 0 3), .ofKind .function (.between 2 0 2 4),
    .ofKind .macroName (.between 4 0 4 2)]

/-- Lines that are new, gone, changed and unchanged together. -/
theorem Line.ofSheet_patch_changes_revision
    : Token.Sorted Token.revision
      ∧ Token.Sorted Token.draft
      ∧ (∀ token ∈ Token.revision ++ Token.draft, 0 ≤ token.line)
      ∧ ∃ changed,
          changes Token.revision Token.draft = .ok changed
          ∧ ofSheet ((sheet (group Token.draft)).patch (changed.map record))
            = group Token.revision := by
  have sortedNext : Token.Sorted Token.revision := by
    unfold Token.Sorted
    decide
  have sortedPrevious : Token.Sorted Token.draft := by
    unfold Token.Sorted
    decide
  have least : ∀ token ∈ Token.revision ++ Token.draft, 0 ≤ token.line := by decide
  exact ⟨sortedNext, sortedPrevious, least,
    Line.ofSheet_patch_changes sortedNext sortedPrevious least⟩

end Highlighter
