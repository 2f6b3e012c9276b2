import Highlighter.Decl.Links
import Highlighter.Proofs.Decl.Grounding

/-! Wrappers and sugar are transparent. Following the links of a chain and lowering the bound of the
search by their number come to the same, so a chain is seen through if it is shorter than the bound
and hides everything otherwise, as does one that never ends.
-/

namespace Highlighter

namespace DeclTable

variable {table : DeclTable} {links more limit : Nat} {id middle last : DeclId}

-----------------------------------------------------------------------------------------
-- Chains of wrappers
-----------------------------------------------------------------------------------------

theorem Leads.trans (leads : table.Leads links id middle) (onward : table.Leads more middle last)
    : table.Leads (links + more) id last := by
  induction leads with
  | here => rwa [Nat.zero_add]
  | link wraps _ ih => exact Nat.add_right_comm _ 1 more ▸ .link wraps (ih onward)

/-- What is wrapped, directly or not, is some links away. -/
theorem exists_leads_of_transGen
    (wraps : Relation.TransGen (fun id target => table.wrapped? id = some target) id last)
    : ∃ links, 1 ≤ links ∧ table.Leads links id last := by
  induction wraps with
  | single wraps => exact ⟨1, Nat.le_refl 1, .link wraps .here⟩
  | tail _ wraps ih =>
      obtain ⟨links, any, leads⟩ := ih
      exact ⟨links + 1, Nat.le_add_left 1 links, leads.trans (.link wraps .here)⟩

/-- Wrappers that lead back to the first of them lead on for ever, round by round. -/
theorem exists_leads_of_cycle
    (cycle : Relation.TransGen (fun id target => table.wrapped? id = some target) id id)
    (rounds : Nat)
    : ∃ links, rounds ≤ links ∧ table.Leads links id id := by
  obtain ⟨length, any, around⟩ := exists_leads_of_transGen cycle
  induction rounds with
  | zero => exact ⟨0, Nat.le_refl 0, .here⟩
  | succ rounds ih =>
      obtain ⟨links, enough, leads⟩ := ih
      exact ⟨links + length, by omega, leads.trans around⟩

/-- A search that may examine one declaration more follows one link more. -/
theorem unwrap_of_wrapped {target : DeclId} (wraps : table.wrapped? id = some target) (limit : Nat)
    : table.unwrap (limit + 1) id = table.unwrap limit target := by
  obtain ⟨decl, found, wrapped⟩ := Option.bind_eq_some_iff.mp wraps
  rw [unwrap, found]
  dsimp only
  rw [wrapped]

/-- A search examines one declaration less for each link that it follows. -/
theorem Leads.unwrap_add (leads : table.Leads links id last) (limit : Nat)
    : table.unwrap (links + limit) id = table.unwrap limit last := by
  induction leads with
  | here => rw [Nat.zero_add]
  | link wraps _ ih => rw [Nat.add_right_comm, unwrap_of_wrapped wraps, ih]

/-- Behind as many links as the bound nothing is found. -/
theorem Leads.unwrap_eq_none (leads : table.Leads links id last) (limit : Nat)
    (many : limit ≤ links)
    : table.unwrap limit id = none := by
  induction limit generalizing links id with
  | zero => rfl
  | succ limit ih =>
      cases leads with
      | here => contradiction
      | link wraps rest =>
          rw [unwrap_of_wrapped wraps]
          exact ih rest (Nat.le_of_succ_le_succ many)

/-- A declaration that wraps no other is found behind fewer links than the bound. -/
theorem Leads.unwrap_eq_some (leads : table.Leads links id last) (few : links < limit)
    {decl : Decl} (found : table.find? last = some decl) (ended : decl.entity.wrapped? = none)
    : table.unwrap limit id = some decl := by
  obtain ⟨slack, rfl⟩ := Nat.exists_eq_add_of_lt few
  rw [Nat.add_assoc, leads.unwrap_add, unwrap, found]
  dsimp only
  rw [ended]

-----------------------------------------------------------------------------------------
-- Kinds behind them
-----------------------------------------------------------------------------------------

/-- Behind fewer links than the bound a declaration that wraps no other decides the kind. -/
theorem Leads.kindOf_eq (leads : table.Leads links id last) (few : links ≤ 15)
    {decl : Decl} (found : table.find? last = some decl) (ended : decl.entity.wrapped? = none)
    : table.kindOf id = decl.entity.kindBy table.kindOf := by
  have seen : table.unwrap unwrapLimit id = some decl :=
    leads.unwrap_eq_some (Nat.lt_succ_of_le few) found ended
  rw [table.kindOf_eq_kindBy, kindBy, seen]

/-- Behind as many links as the bound there is no kind. -/
theorem Leads.kindOf_eq_none (leads : table.Leads links id last) (many : 16 ≤ links)
    : table.kindOf id = .ok none := by
  have hidden : table.unwrap unwrapLimit id = none := leads.unwrap_eq_none unwrapLimit many
  rw [table.kindOf_eq_kindBy, kindBy, hidden]

end DeclTable

-----------------------------------------------------------------------------------------
-- Layers of sugar
-----------------------------------------------------------------------------------------

namespace TypeRef

variable {type : TypeRef} {layers : List Sugar}

/-- A search examines one type less for each layer that it takes off. -/
theorem desugar_under (type : TypeRef) (layers : List Sugar) (limit : Nat)
    : (type.under layers).desugar (layers.length + limit) = type.desugar limit := by
  induction layers with
  | nil => rw [under, List.length_nil, Nat.zero_add]
  | cons sugar layers ih => rw [under, List.length_cons, Nat.add_right_comm, desugar, ih]

/-- Under as many layers as the bound nothing is found. -/
theorem desugar_under_eq_none (limit : Nat) (many : limit ≤ layers.length)
    : (type.under layers).desugar limit = none := by
  induction limit generalizing layers with
  | zero => rfl
  | succ limit ih =>
      cases layers with
      | nil => contradiction
      | cons sugar layers =>
          rw [under, desugar]
          exact ih (Nat.le_of_succ_le_succ many)

/-- A type without sugar is found under fewer layers than the bound. -/
theorem desugar_under_eq_some {limit : Nat} (few : layers.length < limit)
    (plain : type.isSugared = false)
    : (type.under layers).desugar limit = some type := by
  obtain ⟨slack, rfl⟩ := Nat.exists_eq_add_of_lt few
  rw [Nat.add_assoc, desugar_under]
  cases type with
  | sugared _ _ => contradiction
  | builtin _ | templateParameter _ | tag _ | other => rfl

/-- Nothing is found under sugar of nothing, whatever the bound is. -/
theorem desugar_bare (sugar : Sugar) (layers : List Sugar) (limit : Nat)
    : ((sugared sugar none).under layers).desugar limit = none := by
  rcases Nat.le_total limit layers.length with many | few
  · exact desugar_under_eq_none limit many
  · obtain ⟨slack, rfl⟩ := Nat.exists_eq_add_of_le few
    rw [desugar_under]
    cases slack <;> rfl

/-- A type with sugar has no kind if nothing is found under it. -/
theorem kindBy_eq_none {kindOf : DeclId → Except Endless (Option Kind)}
    (sugary : type.isSugared = true) (hidden : type.desugar unwrapLimit = none)
    : type.kindBy kindOf = .ok none := by
  unfold kindBy
  rw [hidden]
  cases type with
  | sugared _ _ => rfl
  | builtin _ | templateParameter _ | tag _ | other => contradiction

/-- What is under layers of sugar decides the kind, if it is found. -/
theorem kindBy_under {kindOf : DeclId → Except Endless (Option Kind)}
    (few : layers.length ≤ 15) (plain : type.isSugared = false)
    : (type.under layers).kindBy kindOf = type.kindUnder layers kindOf := by
  have seen : (type.under layers).desugar unwrapLimit = some type :=
    desugar_under_eq_some (Nat.lt_succ_of_le few) plain
  unfold kindBy
  rw [seen]
  cases type with
  | builtin _ | tag _ => rfl
  | sugared _ _ => contradiction
  | templateParameter decl => cases layers <;> cases decl <;> rfl
  | other => cases layers <;> rfl

end TypeRef

-----------------------------------------------------------------------------------------
-- Transparency
-----------------------------------------------------------------------------------------

/-- Without cycles of typedefs the search for a kind ends, and wrappers and sugar are transparent to
it, at most 15 of either and afresh behind every typedef.
-/
theorem DeclTable.Grounded.transparent {table : DeclTable} (grounded : table.Grounded)
    : table.Transparent := by
  constructor
  case ends => exact grounded.exists_classifies
  case wrapped =>
    intro links id last decl few leads found ended
    rw [leads.kindOf_eq few found ended, Leads.here.kindOf_eq (Nat.zero_le 15) found ended]
  case hollow =>
    rintro id ⟨_, _, _, _⟩ found (rfl | rfl) <;>
      exact Leads.here.kindOf_eq (Nat.zero_le 15) found rfl
  case deep =>
    intro links id last many leads
    exact leads.kindOf_eq_none many
  case cyclic =>
    intro links id last leads cycle
    obtain ⟨rounds, many, around⟩ := exists_leads_of_cycle cycle 16
    exact (leads.trans around).kindOf_eq_none (Nat.le_add_left_of_le many)
  case sugared =>
    intro layers type few plain
    exact TypeRef.kindBy_under few plain
  case thick =>
    intro layers type many
    have sugary : (type.under layers).isSugared = true := by
      cases layers with
      | nil => contradiction
      | cons => rfl
    exact TypeRef.kindBy_eq_none sugary (TypeRef.desugar_under_eq_none unwrapLimit many)
  case bare =>
    intro layers sugar
    have sugary : ((TypeRef.sugared sugar none).under layers).isSugared = true := by
      cases layers <;> rfl
    exact TypeRef.kindBy_eq_none sugary (TypeRef.desugar_bare sugar layers unwrapLimit)
  case typedef =>
    rintro links id last ⟨_, _, _, _⟩ underlying few leads found rfl
    rw [leads.kindOf_eq few found rfl]
    cases underlying with
    | none => exact ⟨none, rfl, rfl⟩
    | some type =>
        obtain ⟨kind, ended⟩ := grounded.exists_typeKind type
        refine ⟨kind, ended, ?_⟩
        rw [Entity.kindBy, ← typeKind, ended]
        rfl

/-- Declarations of which one is behind a number of wrappers, another wraps itself, and a typedef
stands for what is behind wrappers too.
-/
def DeclTable.stacked : DeclTable :=
  let name : DeclName := ⟨.identifier, "Name"⟩
  let shadows : List Decl := (List.range 16).map fun n =>
    ⟨toString (n + 1), name, none, .usingShadow (some (if n = 0 then "alias" else toString n))⟩
  ⟨[⟨"class", name, none, .record false⟩,
    ⟨"generic", name, none, .template (some "class")⟩,
    ⟨"alias", name, none, .typedef (some (.sugared .elaborated (some (.tag "generic"))))⟩,
    ⟨"itself", name, none, .template (some "itself")⟩] ++ shadows⟩

/-- The typedef is a class behind 15 wrappers, and hidden behind 16. -/
theorem DeclTable.transparent_stacked
    : stacked.Grounded
      ∧ stacked.Leads 15 "15" "alias"
      ∧ stacked.kindOf "15" = .ok (some .classType)
      ∧ stacked.Leads 16 "16" "alias"
      ∧ stacked.kindOf "16" = .ok none
      ∧ stacked.kindOf "itself" = .ok none := by
  have grounded : stacked.Grounded :=
    grounded_of_rank (fun id => if id = "generic" then 0 else 1) (by decide +kernel)
  have transparent := grounded.transparent
  have near : stacked.Leads 15 "15" "alias" := by decide +kernel
  have far : stacked.Leads 16 "16" "alias" := by decide +kernel
  have around : stacked.wrapped? "itself" = some "itself" := by decide +kernel
  refine ⟨grounded, near, ?_, far, transparent.deep (Nat.le_refl 16) far,
    transparent.cyclic .here (.single around)⟩
  obtain ⟨kind, under, found⟩ := transparent.typedef (Nat.le_refl 15) near rfl rfl
  have same : kind = some .classType := Except.ok.inj (under.symm.trans (by decide +kernel))
  rw [found, same]
  rfl

end Highlighter
