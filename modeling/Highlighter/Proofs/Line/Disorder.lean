import Highlighter.Line.Change
import Highlighter.Proofs.Token.Order
import Mathlib.Data.List.Chain
import Mathlib.Order.Bounds.Basic

/-! Lists that are out of order. Looking at neighbours only finds the first index at which a list
stops being sorted, since the order is transitive, and finds none exactly if sorting would move
nothing. A comparison of two lists is refused exactly if one of them is out of order, and the fault
is that of the new list if both are.
-/

namespace Highlighter

namespace Token

/-- Whatever has tokens, in their canonical order; what has equal tokens stays as it stood. -/
def sortOn {α : Type} (token : α → Token) (items : List α) : List α :=
  items.mergeSort fun a b => (token a).atMost (token b)

-----------------------------------------------------------------------------------------
-- Neighbours
-----------------------------------------------------------------------------------------

/-- A token stands before another or is the same exactly if their difference is not positive. -/
theorem atMost_iff_difference {a b : Token} : a.atMost b = true ↔ a.difference b ≤ 0 := by
  rw [atMost, ← compare_difference, Std.isLE_compare]

/-- A list is sorted exactly if its neighbours are in order, by transitivity. -/
theorem sorted_iff_isChain {tokens : List Token}
    : Sorted tokens ↔ tokens.IsChain fun a b => a.atMost b = true := by
  have : Trans (fun a b : Token => a.atMost b = true) (fun a b => a.atMost b = true)
      (fun a b => a.atMost b = true) := ⟨fun {a b c} => atMost_trans a b c⟩
  exact List.isChain_iff_pairwise.symm

/-- Where no token stands before its predecessor all neighbours are in order, by induction over the
list.
-/
theorem isChain_of_firstUnsortedAfter {last : Token} {tokens : List Token} {index : Nat}
    (absent : firstUnsortedAfter last index tokens = none)
    : (last :: tokens).IsChain fun a b => a.atMost b = true := by
  induction tokens generalizing last index with
  | nil => exact .singleton last
  | cons token rest ih =>
      rw [firstUnsortedAfter] at absent
      split at absent
      next before => exact List.isChain_cons_cons.mpr ⟨before, ih absent⟩
      next => contradiction

/-- The token that is found stands before its predecessor, and up to there neighbours are in order,
by induction over the list.
-/
theorem exists_of_firstUnsortedAfter {last : Token} {tokens : List Token} {start index : Nat}
    (found : firstUnsortedAfter last start tokens = some index)
    : ∃ front before token back,
        last :: tokens = front ++ before :: token :: back
        ∧ start + front.length = index
        ∧ ((front ++ [before]).IsChain fun a b => a.atMost b = true)
        ∧ before.atMost token = false := by
  induction tokens generalizing last start with
  | nil => contradiction
  | cons next rest ih =>
      rw [firstUnsortedAfter] at found
      split at found
      next ordered =>
        obtain ⟨front, before, token, back, whole, place, chain, descends⟩ := ih found
        refine ⟨last :: front, before, token, back, by rw [whole]; rfl, ?_, ?_, descends⟩
        · rw [← place, List.length_cons]
          omega
        · refine List.isChain_cons.mpr ⟨fun head isHead => ?_, chain⟩
          have same : (front ++ [before]).head? = some next := by
            cases front <;> simp_all
          rwa [Option.some.inj (isHead.symm.trans same)]
      next descends =>
        exact ⟨[], last, next, rest, rfl, Option.some.inj found, .singleton last,
          Bool.eq_false_iff.mpr descends⟩

-----------------------------------------------------------------------------------------
-- The first unsorted token
-----------------------------------------------------------------------------------------

/-- No token is unsorted exactly if the list is sorted. -/
theorem firstUnsorted_eq_none {tokens : List Token}
    : firstUnsorted tokens = none ↔ Sorted tokens := by
  refine ⟨fun absent => ?_, Sorted.firstUnsorted⟩
  cases tokens with
  | nil => exact .nil
  | cons token rest => exact sorted_iff_isChain.mpr (isChain_of_firstUnsortedAfter absent)

/-- A first unsorted token parts the list: what is in front of it is sorted and ends with a token
that it stands before.
-/
theorem exists_of_firstUnsorted {tokens : List Token} {index : Nat}
    (found : firstUnsorted tokens = some index)
    : ∃ front before token back,
        tokens = front ++ before :: token :: back
        ∧ front.length + 1 = index
        ∧ Sorted (front ++ [before])
        ∧ before.atMost token = false := by
  cases tokens with
  | nil => contradiction
  | cons first rest =>
      obtain ⟨front, before, token, back, whole, place, chain, descends⟩ :=
        exists_of_firstUnsortedAfter found
      exact ⟨front, before, token, back, whole, by omega, sorted_iff_isChain.mpr chain, descends⟩

/-- Up to the first unsorted token a list is sorted, and with it no longer. No earlier index does
the same, since whatever begins a sorted list is sorted.
-/
theorem isLeast_of_firstUnsorted {tokens : List Token} {index : Nat}
    (found : firstUnsorted tokens = some index)
    : IsLeast {i | Sorted (tokens.take i) ∧ ¬ Sorted (tokens.take (i + 1))} index := by
  obtain ⟨front, before, token, back, rfl, rfl, sorted, descends⟩ :=
    exists_of_firstUnsorted found
  have upTo : (front ++ before :: token :: back).take (front.length + 1) = front ++ [before] :=
    List.take_length_add_append 1
  have beyond : (front ++ before :: token :: back).take (front.length + 2)
      = front ++ [before, token] :=
    List.take_length_add_append 2
  refine ⟨⟨upTo ▸ sorted, fun ordered => ?_⟩, fun earlier ⟨_, unsorted⟩ => ?_⟩
  · rw [beyond] at ordered
    have neighbours : before.atMost token = true :=
      List.rel_of_pairwise_cons (List.pairwise_append.mp ordered).2.1 (List.mem_singleton_self _)
    rw [neighbours] at descends
    contradiction
  · by_contra smaller
    refine unsorted (sorted.sublist ?_)
    rw [← upTo]
    exact List.take_sublist_take_left (by omega)

/-- The first unsorted token is where a list stops being sorted. -/
theorem firstUnsorted_eq_some {tokens : List Token} {index : Nat}
    : firstUnsorted tokens = some index
      ↔ IsLeast {i | Sorted (tokens.take i) ∧ ¬ Sorted (tokens.take (i + 1))} index := by
  refine ⟨isLeast_of_firstUnsorted, fun least => ?_⟩
  cases found : firstUnsorted tokens with
  | none =>
      have sorted := firstUnsorted_eq_none.mp found
      exact absurd (sorted.sublist (List.take_sublist _ _)) least.1.2
  | some other => rw [(isLeast_of_firstUnsorted found).unique least]

/-- Sorting what has tokens moves nothing exactly if no token is unsorted: sorting sorts, and a
stable sort leaves what is sorted.
-/
theorem sortOn_eq_self {α : Type} (token : α → Token) (items : List α)
    : sortOn token items = items ↔ firstUnsorted (items.map token) = none := by
  rw [firstUnsorted_eq_none, Sorted, List.pairwise_map]
  constructor
  · intro same
    have sorted : (sortOn token items).Pairwise fun a b => (token a).atMost (token b) = true :=
      List.pairwise_mergeSort (fun a b c => atMost_trans (token a) (token b) (token c))
        (fun a b => atMost_total (token a) (token b)) items
    rwa [same] at sorted
  · exact List.mergeSort_of_pairwise

end Token

-----------------------------------------------------------------------------------------
-- Refused comparisons
-----------------------------------------------------------------------------------------

/-- A fault names the first unsorted token of a list, at an index, with its range and that of its
predecessor.
-/
structure Unsorted.Names (fault : Unsorted) (side : Side) (tokens : List Token) (index : Nat)
    : Prop where
  side : fault.side = side
  first : Token.firstUnsorted tokens = some index
  positive : 0 < index
  token : tokens[index]?.map Token.range = some fault.token
  predecessor : tokens[index - 1]?.map Token.range = some fault.predecessor

namespace Unsorted

variable {side : Side} {tokens : List Token} {fault other : Unsorted} {index place : Nat}

/-- One fault names a list, since a list has one first unsorted token. -/
theorem Names.unique (names : fault.Names side tokens index)
    (again : other.Names side tokens place)
    : other = fault := by
  obtain rfl : index = place := Option.some.inj (names.first.symm.trans again.first)
  have ranges := Option.some.inj (names.token.symm.trans again.token)
  have predecessors := Option.some.inj (names.predecessor.symm.trans again.predecessor)
  have sides := names.side.trans again.side.symm
  cases fault
  cases other
  simp_all

/-- Where a list has a first unsorted token its fault is found, both tokens being there. -/
theorem exists_names (side : Side) (found : Token.firstUnsorted tokens = some index)
    : ∃ fault, find? side tokens = some fault ∧ fault.Names side tokens index := by
  obtain ⟨front, before, token, back, rfl, rfl, _, _⟩ := Token.exists_of_firstUnsorted found
  have here : (front ++ before :: token :: back)[front.length + 1]? = some token := by simp
  have ahead : (front ++ before :: token :: back)[front.length + 1 - 1]? = some before := by simp
  refine ⟨⟨side, token.range, before.range⟩, by simp only [find?, found, here, ahead], ?_⟩
  exact ⟨rfl, found, Nat.succ_pos _, by rw [here]; rfl, by rw [ahead]; rfl⟩

/-- No fault is found exactly if no token is unsorted. -/
theorem find?_eq_none : find? side tokens = none ↔ Token.firstUnsorted tokens = none := by
  cases found : Token.firstUnsorted tokens with
  | none => simp [find?, found]
  | some index =>
      obtain ⟨fault, whole, _⟩ := exists_names side found
      simp [whole]

/-- The fault that is found is the one that names the list. -/
theorem find?_eq_some
    : find? side tokens = some fault ↔ ∃ index, fault.Names side tokens index := by
  constructor
  · intro named
    cases found : Token.firstUnsorted tokens with
    | none =>
        rw [find?_eq_none.mpr found] at named
        contradiction
    | some index =>
        obtain ⟨other, whole, names⟩ := exists_names side found
        rw [whole] at named
        exact ⟨index, Option.some.inj named ▸ names⟩
  · rintro ⟨index, names⟩
    obtain ⟨other, whole, again⟩ := exists_names side names.first
    rw [whole, names.unique again]

end Unsorted

namespace Line

/-- A comparison is refused for the fault of the new list, or else for that of the old one. -/
theorem changes_eq_error {next previous : List Token} {fault : Unsorted}
    : changes next previous = .error fault
      ↔ Unsorted.find? .next next = some fault
        ∨ Unsorted.find? .next next = none ∧ Unsorted.find? .previous previous = some fault := by
  unfold changes
  split <;> simp_all

/-- Tokens are in order exactly if their difference is not positive. A list has no first unsorted
token exactly if sorting leaves it as it is, and then whatever has these tokens is left in its
place, equal ones too. Otherwise its first unsorted token is at the least index up to which the list
is sorted while it is not with the token there. Two lists are not compared exactly if one of them
has such a token: the fault then names the new list, or the old one if the new one is in order, with
the ranges at that index and at the one before.
-/
theorem changes_refused (next previous : List Token)
    : (∀ a b : Token, a.atMost b = true ↔ a.difference b ≤ 0)
      ∧ (∀ tokens,
          (Token.firstUnsorted tokens = none ↔ Token.sort tokens = tokens)
          ∧ ∀ index,
              Token.firstUnsorted tokens = some index
              ↔ IsLeast {i | Token.Sorted (tokens.take i) ∧ ¬ Token.Sorted (tokens.take (i + 1))}
                  index)
      ∧ (∀ (α : Type) (token : α → Token) (items : List α),
          Token.firstUnsorted (items.map token) = none ↔ Token.sortOn token items = items)
      ∧ ((∃ fault, changes next previous = .error fault)
          ↔ Token.firstUnsorted next ≠ none ∨ Token.firstUnsorted previous ≠ none)
      ∧ ∀ fault,
          changes next previous = .error fault
          ↔ (∃ index, fault.Names .next next index)
            ∨ Token.firstUnsorted next = none ∧ ∃ index, fault.Names .previous previous index := by
  have refused (fault : Unsorted)
      : changes next previous = .error fault
        ↔ (∃ index, fault.Names .next next index)
          ∨ Token.firstUnsorted next = none ∧ ∃ index, fault.Names .previous previous index := by
    rw [changes_eq_error, Unsorted.find?_eq_some, Unsorted.find?_eq_none, Unsorted.find?_eq_some]
  refine ⟨fun _ _ => Token.atMost_iff_difference,
    fun tokens => ⟨?_, fun index => Token.firstUnsorted_eq_some⟩, ?_, ?_, refused⟩
  · have same := Token.sortOn_eq_self id tokens
    rw [List.map_id] at same
    exact same.symm
  · exact fun α token items => (Token.sortOn_eq_self token items).symm
  · constructor
    · rintro ⟨fault, failed⟩
      rcases (refused fault).mp failed with ⟨index, names⟩ | ⟨_, index, names⟩
      · exact .inl (by simp [names.first])
      · exact .inr (by simp [names.first])
    · intro unsorted
      by_cases ordered : Token.firstUnsorted next = none
      · obtain ⟨index, found⟩ := Option.ne_none_iff_exists'.mp
          (unsorted.resolve_left fun broken => broken ordered)
        obtain ⟨fault, _, names⟩ := Unsorted.exists_names .previous found
        exact ⟨fault, (refused fault).mpr (.inr ⟨ordered, index, names⟩)⟩
      · obtain ⟨index, found⟩ := Option.ne_none_iff_exists'.mp ordered
        obtain ⟨fault, _, names⟩ := Unsorted.exists_names .next found
        exact ⟨fault, (refused fault).mpr (.inl ⟨index, names⟩)⟩

/-- If both lists are out of order the new one is named; equal neighbours are in order. -/
example
    : changes
          [.ofKind .field (.between 4 0 4 2), .ofKind .field (.between 4 0 4 2),
            .ofKind .field (.between 1 0 1 2)]
          [.ofKind .field (.between 7 0 7 2), .ofKind .field (.between 6 0 6 2)]
        = .error ⟨.next, .between 1 0 1 2, .between 4 0 4 2⟩
      ∧ Unsorted.message ⟨.next, .between 1 0 1 2, .between 4 0 4 2⟩
        = "diffHighlightings expects tokens in canonical order: "
          ++ "next token at 1:0-1:2 follows 4:0-4:2" := by
  decide

end Line

end Highlighter
