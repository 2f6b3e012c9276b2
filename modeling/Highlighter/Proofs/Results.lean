import Mathlib.Data.List.Forall2

/-! Results that may be faults: when steps that are taken one after another have a value or fail,
and when a list of them does.
-/

namespace Highlighter

variable {ε α β : Type} {fault : ε}

/-- Two steps have a value if the first has one and the second has one for it, by definition. -/
theorem ok_of_bind_iff {first : Except ε α} {next : α → Except ε β} {value : β}
    : (first >>= next) = .ok value ↔ ∃ middle, first = .ok middle ∧ next middle = .ok value := by
  cases first <;> simp [bind, Except.bind]

/-- Two steps fail if the first does or the second does for its value, by definition. -/
theorem error_of_bind_iff {first : Except ε α} {next : α → Except ε β}
    : (first >>= next) = .error fault
      ↔ first = .error fault ∨ ∃ middle, first = .ok middle ∧ next middle = .error fault := by
  cases first <;> simp [bind, Except.bind]

theorem ok_of_map_iff {result : Except ε α} {f : α → β} {value : β}
    : result.map f = .ok value ↔ ∃ found, result = .ok found ∧ f found = value := by
  cases result <;> simp [Except.map]

theorem error_of_map_iff {result : Except ε α} {f : α → β}
    : result.map f = .error fault ↔ result = .error fault := by
  cases result <;> simp [Except.map]

/-- A list has a companion if each of its items has one, by induction over the list. -/
theorem exists_forall₂ {R : α → β → Prop} {items : List α}
    (each : ∀ item ∈ items, ∃ other, R item other)
    : ∃ others, List.Forall₂ R items others := by
  induction items with
  | nil => exact ⟨[], .nil⟩
  | cons item rest ih =>
      obtain ⟨⟨other, here⟩, later⟩ := List.forall_mem_cons.mp each
      obtain ⟨others, there⟩ := ih later
      exact ⟨other :: others, .cons here there⟩

/-- Whatever is in a list has its companion in one that goes with it, by induction over both. -/
theorem exists_companion {R : α → β → Prop} {items : List α} {others : List β}
    (together : List.Forall₂ R items others) {item : α} (member : item ∈ items)
    : ∃ other ∈ others, R item other := by
  induction together with
  | nil => contradiction
  | cons here _ ih =>
      rcases List.mem_cons.mp member with rfl | later
      · exact ⟨_, List.mem_cons_self, here⟩
      · obtain ⟨other, listed, related⟩ := ih later
        exact ⟨other, List.mem_cons_of_mem _ listed, related⟩

/-- Steps for the items of a list have values if each of them has its own, by induction over the
list.
-/
theorem ok_of_mapM_iff {f : α → Except ε β} {items : List α} {values : List β}
    : items.mapM f = .ok values
      ↔ List.Forall₂ (fun item value => f item = .ok value) items values := by
  induction items generalizing values with
  | nil => simp [pure, Except.pure, eq_comm]
  | cons item rest ih =>
      simp only [List.mapM_cons, ok_of_bind_iff, pure, Except.pure, Except.ok.injEq,
        List.forall₂_cons_left_iff, ih]
      constructor
      · rintro ⟨value, here, others, later, rfl⟩
        exact ⟨value, others, here, later, rfl⟩
      · rintro ⟨value, others, here, later, rfl⟩
        exact ⟨value, here, others, later, rfl⟩

end Highlighter
