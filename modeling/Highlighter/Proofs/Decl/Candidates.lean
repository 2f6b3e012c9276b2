import Highlighter.Proofs.Decl.Grounding

/-! The kind that candidates have in common. They are looked at one after another until one differs
from those before it, so the result is the kind of all of them or none, in any order. A search that
never ends is met unless a candidate before it has decided already, and whether one has depends on
the order.
-/

namespace Highlighter.DeclTable

variable {table : DeclTable} {candidates : List DeclId} {candidate : DeclId}

-----------------------------------------------------------------------------------------
-- One candidate more
-----------------------------------------------------------------------------------------

theorem commonKind_of_endless {fault : Endless} (endless : table.kindOf candidate = .error fault)
    (shared : Option Kind) (rest : List DeclId)
    : table.commonKind shared (candidate :: rest) = .error fault := by
  rw [commonKind, endless]
  rfl

theorem commonKind_of_none (unkinded : table.kindOf candidate = .ok none) (shared : Option Kind)
    (rest : List DeclId)
    : table.commonKind shared (candidate :: rest) = .ok none := by
  rw [commonKind, unkinded]
  rfl

theorem commonKind_of_some {kind : Kind} (kinded : table.kindOf candidate = .ok (some kind))
    (shared : Option Kind) (rest : List DeclId)
    : table.commonKind shared (candidate :: rest)
      = if shared.all (· = kind) then table.commonKind (some kind) rest else .ok none := by
  rw [commonKind, kinded]
  rfl

-----------------------------------------------------------------------------------------
-- All candidates
-----------------------------------------------------------------------------------------

/-- Candidates behind others have a kind in common with them exactly if each of them has it, by
induction over the candidates.
-/
theorem commonKind_eq_some {kind own : Kind}
    : table.commonKind (some kind) candidates = .ok (some own)
      ↔ kind = own ∧ ∀ candidate ∈ candidates, table.kindOf candidate = .ok (some own) := by
  induction candidates generalizing kind with
  | nil => simp [commonKind]
  | cons candidate rest ih =>
      rw [List.forall_mem_cons]
      match searched : table.kindOf candidate with
      | .error fault => simp [commonKind_of_endless searched]
      | .ok none => simp [commonKind_of_none searched]
      | .ok (some other) =>
          rw [commonKind_of_some searched]
          by_cases agrees : kind = other
          · subst agrees
            simp [ih]
          · simp only [Option.all_some, decide_eq_true_eq, agrees, if_false, Except.ok.injEq,
              reduceCtorEq, Option.some.injEq, false_iff, not_and]
            rintro rfl
            exact fun same => absurd same.symm agrees

/-- Candidates are found to have a kind exactly if there are any and each of them has it. -/
theorem candidatesKind_eq_some {own : Kind}
    : table.candidatesKind candidates = .ok (some own)
      ↔ candidates ≠ [] ∧ ∀ candidate ∈ candidates, table.kindOf candidate = .ok (some own) := by
  rw [candidatesKind]
  cases candidates with
  | nil => simp [commonKind]
  | cons first rest =>
      rw [List.forall_mem_cons]
      match searched : table.kindOf first with
      | .error fault => simp [commonKind_of_endless searched]
      | .ok none => simp [commonKind_of_none searched]
      | .ok (some kind) => simp [commonKind_of_some searched, commonKind_eq_some]

/-- What is found is the kind that candidates have in common, if they have one. -/
theorem common_of_candidatesKind {kind : Option Kind}
    (found : table.candidatesKind candidates = .ok kind)
    : table.Common candidates kind := by
  intro own
  rw [← candidatesKind_eq_some, found, Except.ok.injEq]

theorem Common.unique {kind other : Option Kind} (common : table.Common candidates kind)
    (again : table.Common candidates other)
    : other = kind :=
  Option.ext fun own => (again own).trans (common own).symm

/-- The search of what candidates have in common ends if that of each candidate does. -/
theorem exists_commonKind
    (ended : ∀ candidate ∈ candidates, ∃ kind, table.kindOf candidate = .ok kind)
    (shared : Option Kind)
    : ∃ kind, table.commonKind shared candidates = .ok kind := by
  induction candidates generalizing shared with
  | nil => exact ⟨shared, rfl⟩
  | cons candidate rest ih =>
      obtain ⟨⟨kind, searched⟩, others⟩ := List.forall_mem_cons.mp ended
      cases kind with
      | none => exact ⟨none, commonKind_of_none searched shared rest⟩
      | some kind =>
          rw [commonKind_of_some searched]
          split
          · exact ih others (some kind)
          · exact ⟨none, rfl⟩

theorem exists_candidatesKind
    (ended : ∀ candidate ∈ candidates, ∃ kind, table.kindOf candidate = .ok kind)
    : ∃ kind, table.candidatesKind candidates = .ok kind :=
  exists_commonKind ended none

end Highlighter.DeclTable
