import Highlighter.Decl.Basis

/-! What stands in front of what has a kind: wrappers, each of them a link to the declaration that
it wraps, and layers of sugar around a type. Wrappers and sugar are transparent up to a fixed number
of them, and what is behind more has no kind.
-/

namespace Highlighter

namespace DeclTable

/-- What a declaration of the table wraps. -/
def wrapped? (table : DeclTable) (id : DeclId) : Option DeclId :=
  (table.find? id).bind fun decl => decl.entity.wrapped?

/-- A number of wrappers, followed one after another, lead from one declaration to another. -/
inductive Leads (table : DeclTable) : Nat → DeclId → DeclId → Prop
  | here {id} : Leads table 0 id id
  | link {links id target last} (wraps : table.wrapped? id = some target)
    (rest : Leads table links target last)
    : Leads table (links + 1) id last

/-- The wrappers can be followed: each of them wraps one declaration only. -/
instance decidableLeads (table : DeclTable)
    : (links : Nat) → (id last : DeclId) → Decidable (table.Leads links id last)
  | 0, id, last =>
      decidable_of_iff (id = last) ⟨fun same => same ▸ .here, fun leads => by cases leads; rfl⟩
  | links + 1, id, last =>
      match wraps : table.wrapped? id with
      | none => .isFalse fun leads => by cases leads; simp_all
      | some target =>
          have := table.decidableLeads links target last
          decidable_of_iff (table.Leads links target last)
            ⟨.link wraps, fun leads => by cases leads; simp_all⟩

end DeclTable

namespace TypeRef

/-- A type is written with sugar. -/
def isSugared : TypeRef → Bool
  | sugared _ _ => true
  | _ => false

/-- A type under layers of sugar, the first of them outermost. -/
def under (type : TypeRef) : List Sugar → TypeRef
  | [] => type
  | sugar :: layers => sugared sugar (some (type.under layers))

/-- The kind that a type without sugar gives to itself under layers of it, where `kindOf` searches
that of a declaration. A type parameter gives one only where there are no layers.
-/
def kindUnder (layers : List Sugar) (kindOf : DeclId → Except Endless (Option Kind))
    : TypeRef → Except Endless (Option Kind)
  | builtin _ => .ok (some .primitive)
  | tag decl => kindOf decl
  | templateParameter (some decl) => if layers = [] then kindOf decl else .ok none
  | _ => .ok none

end TypeRef

/-- Kinds are seen through wrappers and sugar. -/
structure DeclTable.Transparent (table : DeclTable) : Prop where
  /-- The search for the kind of a declaration ends with the kind that is found, or without one. -/
  ends
    : ∀ id,
        ∃ kind, table.kindOf id = .ok kind ∧ ∀ other, table.Classifies id other ↔ other = kind
  /-- Behind at most 15 wrappers a declaration is seen that wraps no other. -/
  wrapped
    : ∀ {links id last decl},
        links ≤ 15
        → table.Leads links id last
        → table.find? last = some decl
        → decl.entity.wrapped? = none
        → table.kindOf id = table.kindOf last
  /-- A wrapper of nothing has no kind. -/
  hollow
    : ∀ {id decl},
        table.find? id = some decl
        → decl.entity = .usingShadow none ∨ decl.entity = .template none
        → table.kindOf id = .ok none
  /-- Nothing is seen behind 16 wrappers or more. -/
  deep : ∀ {links id last}, 16 ≤ links → table.Leads links id last → table.kindOf id = .ok none
  /-- Nothing is seen behind wrappers that lead to one of them again. -/
  cyclic
    : ∀ {links id last},
        table.Leads links id last
        → Relation.TransGen (fun id target => table.wrapped? id = some target) last last
        → table.kindOf id = .ok none
  /-- Under at most 15 layers of sugar a type is seen that is written without. -/
  sugared
    : ∀ {layers : List Sugar} {type : TypeRef},
        layers.length ≤ 15
        → type.isSugared = false
        → table.typeKind (type.under layers) = type.kindUnder layers table.kindOf
  /-- Nothing is seen under 16 layers of sugar or more. -/
  thick
    : ∀ {layers : List Sugar} {type : TypeRef},
        16 ≤ layers.length → table.typeKind (type.under layers) = .ok none
  /-- Sugar of nothing has no kind. -/
  bare
    : ∀ {layers : List Sugar} {sugar},
        table.typeKind ((TypeRef.sugared sugar none).under layers) = .ok none
  /-- A typedef behind at most 15 wrappers has the kind of what it stands for, or else the general
  kind of typedefs.
  -/
  typedef
    : ∀ {links id last decl underlying},
        links ≤ 15
        → table.Leads links id last
        → table.find? last = some decl
        → decl.entity = .typedef underlying
        → ∃ kind,
            underlying.elim (.ok none) table.typeKind = .ok kind
            ∧ table.kindOf id = .ok (some (kind.getD .typedef))

end Highlighter
