import Highlighter.Proofs.Decl.Candidates
import Highlighter.Tree.Contents

/-! Kinds do not depend on ids, nor on how the declarations of a table are ordered. Declarations
that are alike lead to types and declarations that are alike; the bound of the search does not tell
them apart, as a chain that has not ended within the table never ends. Candidates that are found to
have a kind have the same one in any order.
-/

namespace Highlighter

-----------------------------------------------------------------------------------------
-- Lists with the same elements
-----------------------------------------------------------------------------------------

namespace SameElements

variable {α β : Type} {related : α → β → Prop} {first : List α} {second : List β}

theorem nil_iff (elements : SameElements related first second) : first = [] ↔ second = [] := by
  simp only [List.eq_nil_iff_forall_not_mem]
  constructor
  · intro none other member
    obtain ⟨one, present, -⟩ := elements.2 other member
    exact none one present
  · intro none one member
    obtain ⟨other, present, -⟩ := elements.1 one member
    exact none other present

theorem forall_iff (elements : SameElements related first second) {p : α → Prop} {q : β → Prop}
    (agree : ∀ one ∈ first, ∀ other ∈ second, related one other → (p one ↔ q other))
    : (∀ one ∈ first, p one) ↔ ∀ other ∈ second, q other := by
  constructor
  · intro all other member
    obtain ⟨one, present, pair⟩ := elements.2 other member
    exact (agree one present other member pair).mp (all one present)
  · intro all one member
    obtain ⟨other, present, pair⟩ := elements.1 one member
    exact (agree one member other present pair).mpr (all other present)

/-- What related elements lead to is the same set. -/
theorem mem_flatMap_iff {γ : Type} (elements : SameElements related first second)
    {f : α → List γ} {g : β → List γ}
    (agree : ∀ one ∈ first, ∀ other ∈ second, related one other → f one = g other) (result : γ)
    : result ∈ first.flatMap f ↔ result ∈ second.flatMap g := by
  have outside := elements.forall_iff (p := fun one => result ∉ f one)
    (q := fun other => result ∉ g other) fun one member other present pair => by
      rw [agree one member other present pair]
  rw [← not_iff_not]
  simpa only [List.mem_flatMap, not_exists, not_and] using outside

end SameElements

variable {same : DeclId → DeclId → Prop}

-----------------------------------------------------------------------------------------
-- Declarations and types that are alike
-----------------------------------------------------------------------------------------

/-- Types that are written alike are so under their sugar. -/
theorem TypeRef.Alike.desugar {type twin : TypeRef} (alike : type.Alike same twin) (limit : Nat)
    : Option.Rel (TypeRef.Alike same) (type.desugar limit) (twin.desugar limit) := by
  induction limit generalizing type twin with
  | zero => exact .none
  | succ limit ih =>
      cases alike with
      | builtin name => exact .some (.builtin name)
      | templateParameter decl => exact .some (.templateParameter decl)
      | tag decl => exact .some (.tag decl)
      | sugared sugar underlying => exact ih underlying
      | bare sugar => exact .none
      | other => exact .some .other

/-- Template parameters that are alike have the same kind, if what they refer to has. -/
theorem TypeRef.Alike.parameterKind {type twin : TypeRef}
    {kindOf twinKindOf : DeclId → Except Endless (Option Kind)}
    (kinds : ∀ one another, same one another → kindOf one = twinKindOf another)
    : type.Alike same twin
      → (match type with
          | .templateParameter (some decl) => kindOf decl
          | _ => .ok none)
        = match twin with
          | .templateParameter (some decl) => twinKindOf decl
          | _ => .ok none := by
  intro alike
  cases alike with
  | templateParameter decl =>
      cases decl with
      | none => rfl
      | some decl => exact kinds _ _ decl
  | builtin _ | tag _ | sugared _ _ | bare _ | other => rfl

/-- Types that are written alike have the same kind, if what they refer to has. -/
theorem TypeRef.Alike.kindBy {type twin : TypeRef} (alike : type.Alike same twin)
    {kindOf twinKindOf : DeclId → Except Endless (Option Kind)}
    (kinds : ∀ one another, same one another → kindOf one = twinKindOf another)
    : type.kindBy kindOf = twin.kindBy twinKindOf := by
  have bare := alike.desugar unwrapLimit
  unfold TypeRef.kindBy
  generalize type.desugar unwrapLimit = found at bare ⊢
  generalize twin.desugar unwrapLimit = twinFound at bare ⊢
  cases bare with
  | none => exact TypeRef.Alike.parameterKind kinds alike
  | some inner =>
      cases inner with
      | builtin name => rfl
      | tag decl => exact kinds _ _ decl
      | templateParameter _ | sugared _ _ | bare _ | other =>
          exact TypeRef.Alike.parameterKind kinds alike

/-- What is declared alike has the same kind, if what it refers to has. -/
theorem Entity.Alike.kindBy {entity twin : Entity} (alike : entity.Alike same twin)
    {kindOf twinKindOf : DeclId → Except Endless (Option Kind)}
    (kinds : ∀ one another, same one another → kindOf one = twinKindOf another)
    : entity.kindBy kindOf = twin.kindBy twinKindOf := by
  cases alike with
  | plain refersToNone =>
      cases entity with
      | usingShadow _ | template _ | typedef _ | namespaceAlias _ _ | usingList _ => contradiction
      | variableName storage => cases storage <;> rfl
      | _ => rfl
  | typedef underlying =>
      cases underlying with
      | none => rfl
      | some type => simp only [Entity.kindBy, type.kindBy kinds]
  | usingShadow _ | template _ | namespaceAlias _ _ | usingList _ => rfl

theorem Entity.Alike.wrapped? {entity twin : Entity} (alike : entity.Alike same twin)
    : Option.Rel same entity.wrapped? twin.wrapped? := by
  cases alike with
  | plain refersToNone =>
      cases entity with
      | usingShadow _ | template _ | typedef _ | namespaceAlias _ _ | usingList _ => contradiction
      | _ => exact .none
  | usingShadow target => exact target
  | template templated => exact templated
  | typedef _ | namespaceAlias _ _ | usingList _ => exact .none

namespace DeclTable

variable {table twin : DeclTable} {one another : DeclId}

/-- Behind wrappers there are declarations that are alike. -/
theorem Alike.unwrap (alike : table.Alike same twin) (related : same one another) (limit : Nat)
    : Option.Rel (Decl.Alike same) (table.unwrap limit one) (twin.unwrap limit another) := by
  induction limit generalizing one another with
  | zero => exact .none
  | succ limit ih =>
      have found := alike one another related
      unfold DeclTable.unwrap
      generalize table.find? one = decl at found ⊢
      generalize twin.find? another = twinDecl at found ⊢
      cases found with
      | none => exact .none
      | @some decl twinDecl pair =>
          have wrapped := pair.entity.wrapped?
          dsimp only
          generalize decl.entity.wrapped? = target at wrapped ⊢
          generalize twinDecl.entity.wrapped? = twinTarget at wrapped ⊢
          cases wrapped with
          | none => exact .some pair
          | some target => exact ih target

/-- With one bound both searches have the same result. -/
theorem Alike.kindWithin (alike : table.Alike same twin) (related : same one another)
    (typedefs : Nat)
    : table.kindWithin typedefs one = twin.kindWithin typedefs another := by
  induction typedefs generalizing one another with
  | zero => rfl
  | succ typedefs ih =>
      have behind := alike.unwrap related unwrapLimit
      rw [DeclTable.kindWithin, DeclTable.kindWithin, DeclTable.kindBy, DeclTable.kindBy]
      generalize table.unwrap unwrapLimit one = decl at behind ⊢
      generalize twin.unwrap unwrapLimit another = twinDecl at behind ⊢
      cases behind with
      | none => rfl
      | some pair => exact pair.entity.kindBy fun _ _ again => ih again

/-- Searches for the kinds of declarations that are alike have the same result, however large their
tables are.
-/
theorem Alike.kindOf (alike : table.Alike same twin) (related : same one another)
    : table.kindOf one = twin.kindOf another := by
  rw [table.kindOf_eq_kindWithin one twin.size, twin.kindOf_eq_kindWithin another table.size,
    show twin.size + 1 + table.size = table.size + 1 + twin.size by omega]
  exact alike.kindWithin related _

/-- Types that are written alike have the same kind. -/
theorem Alike.typeKind (alike : table.Alike same twin) {type twinType : TypeRef}
    (written : type.Alike same twinType)
    : table.typeKind type = twin.typeKind twinType :=
  written.kindBy fun _ _ related => alike.kindOf related

/-- Which kind candidates are found to have depends neither on their order nor on repetitions. -/
theorem Alike.candidatesKind_eq (alike : table.Alike same twin) {candidates others : List DeclId}
    (elements : SameElements same candidates others) {kind other : Option Kind}
    (found : table.candidatesKind candidates = .ok kind)
    (again : twin.candidatesKind others = .ok other)
    : kind = other := by
  refine Option.ext fun own => ?_
  rw [common_of_candidatesKind found, common_of_candidatesKind again]
  refine and_congr (not_congr elements.nil_iff) ?_
  refine elements.forall_iff fun one _ other _ related => ?_
  rw [alike.kindOf related]

/-- The searches for the kinds of candidates end if those of the same ones do. -/
theorem Alike.exists_kinds (alike : table.Alike same twin) {candidates others : List DeclId}
    (elements : SameElements same candidates others)
    (ended : ∀ candidate ∈ candidates, ∃ kind, table.kindOf candidate = .ok kind)
    : ∀ other ∈ others, ∃ kind, twin.kindOf other = .ok kind :=
  (elements.forall_iff fun one _ other _ related => by rw [alike.kindOf related]).mp ended

end DeclTable

end Highlighter
