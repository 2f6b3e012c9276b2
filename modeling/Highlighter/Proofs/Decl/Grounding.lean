import Highlighter.Decl.Basis
import Mathlib.Data.List.Nodup
import Mathlib.Logic.Relation

/-! Kinds are found where chains of typedefs end. The declarations on such a chain are all
different, so it ends before the bound of the search does; a chain that leads back never ends, and
only there the search is given up. In a table without cycles of typedefs it ends for every
declaration.
-/

namespace Highlighter

-----------------------------------------------------------------------------------------
-- One link of a chain
-----------------------------------------------------------------------------------------

/-- A type has the kind of its basis, or asks for no kind, by cases on what is under its sugar. -/
theorem TypeRef.kindBy_eq (type : TypeRef) (kindOf : DeclId → Except Endless (Option Kind))
    : type.kindBy kindOf
      = match type.basis? with
        | some basis => kindOf basis
        | none => type.kindBy fun _ => .ok none := by
  unfold kindBy basis?
  cases type.desugar unwrapLimit with
  | none =>
      cases type with
      | templateParameter decl => cases decl <;> rfl
      | builtin _ | tag _ | sugared _ _ | other => rfl
  | some bare =>
      cases bare with
      | builtin _ | tag _ => rfl
      | templateParameter _ | sugared _ _ | other =>
          cases type with
          | templateParameter decl => cases decl <;> rfl
          | builtin _ | tag _ | sugared _ _ | other => rfl

/-- A typedef with a basis has the kind of that, or else the general one of typedefs. -/
theorem Entity.kindBy_of_basis {entity : Entity} {basis : DeclId}
    (based : entity.basis? = some basis) (kindOf : DeclId → Except Endless (Option Kind))
    : entity.kindBy kindOf = (kindOf basis).map fun kind => some (kind.getD .typedef) := by
  cases entity with
  | typedef underlying =>
      obtain ⟨type, rfl, link⟩ := Option.bind_eq_some_iff.mp based
      rw [kindBy, type.kindBy_eq, link]
  | _ => contradiction

/-- A type without a basis has a kind or none, whatever declarations have. -/
theorem TypeRef.exists_kindBy_of_ground (type : TypeRef) (ground : type.basis? = none)
    : ∃ kind, ∀ kindOf, type.kindBy kindOf = .ok kind := by
  have ended : ∃ kind, type.kindBy (fun _ => .ok none) = .ok kind := by
    unfold kindBy
    split
    · exact ⟨_, rfl⟩
    · exact ⟨_, rfl⟩
    · split <;> exact ⟨_, rfl⟩
  obtain ⟨kind, ended⟩ := ended
  refine ⟨kind, fun kindOf => ?_⟩
  rw [type.kindBy_eq, ground, ended]

/-- What has no basis has a kind or none, whatever other declarations have. -/
theorem Entity.exists_kindBy_of_ground {entity : Entity} (ground : entity.basis? = none)
    : ∃ kind, ∀ kindOf, entity.kindBy kindOf = .ok kind := by
  cases entity with
  | typedef underlying =>
      cases underlying with
      | none => exact ⟨_, fun _ => rfl⟩
      | some type =>
          obtain ⟨kind, ended⟩ := type.exists_kindBy_of_ground ground
          exact ⟨_, fun kindOf => by rw [kindBy, ended]; rfl⟩
  | _ => exact ⟨_, fun _ => rfl⟩

namespace DeclTable

variable {table : DeclTable}

/-- A declaration without a basis has a kind or none, whatever others have. -/
theorem exists_kindBy_of_ground {id : DeclId} (ground : table.basis? id = none)
    : ∃ kind, ∀ kindOf, table.kindBy kindOf id = .ok kind := by
  cases unwrapped : table.unwrap unwrapLimit id with
  | none => exact ⟨none, fun kindOf => by rw [kindBy, unwrapped]⟩
  | some decl =>
      rw [basis?, unwrapped, Option.bind_some] at ground
      obtain ⟨kind, ended⟩ := decl.entity.exists_kindBy_of_ground ground
      exact ⟨kind, fun kindOf => by rw [kindBy, unwrapped]; exact ended kindOf⟩

/-- A declaration with a basis has the kind of that, or else the general one of typedefs. -/
theorem kindBy_of_based {id basis : DeclId} (based : table.basis? id = some basis)
    (kindOf : DeclId → Except Endless (Option Kind))
    : table.kindBy kindOf id = (kindOf basis).map fun kind => some (kind.getD .typedef) := by
  obtain ⟨decl, unwrapped, link⟩ := Option.bind_eq_some_iff.mp based
  rw [kindBy, unwrapped]
  exact Entity.kindBy_of_basis link kindOf

/-- Only a declaration of the table has a basis, being looked up behind its wrappers. -/
theorem mem_of_basis? {id basis : DeclId} (based : table.basis? id = some basis)
    : id ∈ table.decls.map Decl.id := by
  obtain ⟨decl, unwrapped, _⟩ := Option.bind_eq_some_iff.mp based
  unfold unwrapLimit unwrap at unwrapped
  split at unwrapped
  next => contradiction
  next found present =>
    exact List.mem_map.mpr ⟨found, List.mem_of_find?_eq_some present, id_of_find? present⟩

/-- Chains of typedefs do not lead back if each of their links goes down in some rank. -/
theorem grounded_of_rank (rank : DeclId → Nat)
    (falls
      : ∀ id ∈ table.decls.map Decl.id, ∀ basis ∈ table.basis? id, rank basis < rank id)
    : table.Grounded := by
  intro id returns
  have lower {later : DeclId}
      (leads : Relation.TransGen (fun id basis => table.basis? id = some basis) id later)
      : rank later < rank id := by
    induction leads with
    | single based => exact falls _ (mem_of_basis? based) _ based
    | tail _ based ih => exact Nat.lt_trans (falls _ (mem_of_basis? based) _ based) ih
  exact Nat.lt_irrefl _ (lower returns)

-----------------------------------------------------------------------------------------
-- Chains that end
-----------------------------------------------------------------------------------------

/-- A chain of typedefs ends behind a number of links. -/
inductive EndsAfter (table : DeclTable) : DeclId → Nat → Prop
  | here {id} (ground : table.basis? id = none) : EndsAfter table id 0
  | link {id basis links} (based : table.basis? id = some basis)
    (ends : EndsAfter table basis links)
    : EndsAfter table id (links + 1)

theorem EndsAfter.unique {id : DeclId} {links more : Nat} (ends : table.EndsAfter id links)
    (again : table.EndsAfter id more)
    : more = links := by
  induction ends generalizing more with
  | here ground =>
      cases again with
      | here _ => rfl
      | link based _ => simp [ground] at based
  | link based _ ih =>
      cases again with
      | here ground => simp [ground] at based
      | link also rest =>
          obtain rfl := Option.some.inj (based.symm.trans also)
          rw [ih rest]

/-- The declarations on a chain that ends are different: each has fewer links before it than those
behind. So they are no more than the table has.
-/
theorem EndsAfter.le_size {id : DeclId} {links : Nat} (ends : table.EndsAfter id links)
    : links ≤ table.size := by
  have passed
      : ∃ passed : List DeclId,
          passed.length = links
          ∧ passed.Nodup
          ∧ ∀ earlier ∈ passed,
              earlier ∈ table.decls.map Decl.id
              ∧ ∃ left, left ≤ links ∧ table.EndsAfter earlier left := by
    induction ends with
    | here _ => exact ⟨[], rfl, .nil, by simp⟩
    | @link id basis links based ends ih =>
        obtain ⟨passed, length, distinct, declared⟩ := ih
        have whole := EndsAfter.link based ends
        refine ⟨id :: passed, by rw [List.length_cons, length], ?_, ?_⟩
        · refine List.nodup_cons.mpr ⟨fun member => ?_, distinct⟩
          obtain ⟨-, left, fewer, again⟩ := declared id member
          have equal := whole.unique again
          omega
        · refine List.forall_mem_cons.mpr ⟨⟨mem_of_basis? based, _, Nat.le_refl _, whole⟩, ?_⟩
          intro earlier member
          obtain ⟨present, left, fewer, rest⟩ := declared earlier member
          exact ⟨present, left, Nat.le_succ_of_le fewer, rest⟩
  obtain ⟨passed, length, distinct, declared⟩ := passed
  have few := distinct.length_le_of_subset fun earlier member => (declared earlier member).1
  rw [length, List.length_map] at few
  exact few

/-- Without cycles of typedefs a chain ends that has passed all but so many declarations. Witness:
it passes none of them twice, so it cannot go on for ever.
-/
theorem Grounded.endsAfter_of_passed (grounded : table.Grounded) (left : Nat) {id : DeclId}
    {passed : List DeclId} (distinct : passed.Nodup)
    (declared : ∀ earlier ∈ passed, earlier ∈ table.decls.map Decl.id)
    (leads
      : ∀ earlier ∈ passed,
          Relation.TransGen (fun id basis => table.basis? id = some basis) earlier id)
    (bound : table.size < left + passed.length)
    : ∃ links, table.EndsAfter id links := by
  induction left generalizing id passed with
  | zero =>
      have few := distinct.length_le_of_subset declared
      rw [List.length_map] at few
      rw [size] at bound
      omega
  | succ left ih =>
      cases based : table.basis? id with
      | none => exact ⟨0, .here based⟩
      | some basis =>
          have fresh : id ∉ passed := fun member => grounded id (leads id member)
          have onward : ∃ links, table.EndsAfter basis links := by
            refine ih (List.nodup_cons.mpr ⟨fresh, distinct⟩) ?_ ?_ ?_
            · exact List.forall_mem_cons.mpr ⟨mem_of_basis? based, declared⟩
            · refine List.forall_mem_cons.mpr ⟨.single based, fun earlier member => ?_⟩
              exact (leads earlier member).tail based
            · rw [List.length_cons]
              omega
          obtain ⟨links, ends⟩ := onward
          exact ⟨links + 1, .link based ends⟩

theorem Grounded.exists_endsAfter (grounded : table.Grounded) (id : DeclId)
    : ∃ links, table.EndsAfter id links := by
  have bound : table.size < table.size + 1 + ([] : List DeclId).length := by simp
  exact grounded.endsAfter_of_passed (table.size + 1) .nil (by simp) (by simp) bound

-----------------------------------------------------------------------------------------
-- Searches
-----------------------------------------------------------------------------------------

/-- A bound beyond the end of a chain is not used up, and does not count. -/
theorem EndsAfter.exists_kindWithin {id : DeclId} {links : Nat} (ends : table.EndsAfter id links)
    : ∃ kind,
        table.Classifies id kind ∧ ∀ more, table.kindWithin (links + 1 + more) id = .ok kind := by
  induction ends with
  | here ground =>
      obtain ⟨kind, ended⟩ := exists_kindBy_of_ground ground
      refine ⟨kind, .direct ground (ended _), fun more => ?_⟩
      rw [Nat.add_right_comm, kindWithin]
      exact ended _
  | @link id basis links based _ ih =>
      obtain ⟨kind, classifies, ended⟩ := ih
      refine ⟨_, .typedef based classifies, fun more => ?_⟩
      rw [Nat.add_right_comm, kindWithin, kindBy_of_based based, ended]
      rfl

/-- A search along a chain that never ends uses up every bound. -/
theorem kindWithin_of_endless {id : DeclId} (endless : ∀ links, ¬ table.EndsAfter id links)
    (typedefs : Nat)
    : table.kindWithin typedefs id = .error .typedefs := by
  induction typedefs generalizing id with
  | zero => rfl
  | succ typedefs ih =>
      cases based : table.basis? id with
      | none => exact absurd (.here based) (endless 0)
      | some basis =>
          have onward : ∀ links, ¬ table.EndsAfter basis links := fun links ends =>
            endless (links + 1) (.link based ends)
          rw [kindWithin, kindBy_of_based based, ih onward]
          rfl

/-- A search along a chain that ends finds a kind or none, and greater bounds find the same. -/
theorem EndsAfter.exists_kindOf {id : DeclId} {links : Nat} (ends : table.EndsAfter id links)
    : ∃ kind,
        table.Classifies id kind
        ∧ ∀ more, table.kindWithin (table.size + 1 + more) id = .ok kind := by
  obtain ⟨kind, classifies, ended⟩ := ends.exists_kindWithin
  obtain ⟨slack, enough⟩ := Nat.exists_eq_add_of_le ends.le_size
  refine ⟨kind, classifies, fun more => ?_⟩
  rw [show table.size + 1 + more = links + 1 + (slack + more) by omega]
  exact ended _

/-- A greater bound than that of the search has the same result. -/
theorem kindOf_eq_kindWithin (table : DeclTable) (id : DeclId) (more : Nat)
    : table.kindOf id = table.kindWithin (table.size + 1 + more) id := by
  by_cases ending : ∃ links, table.EndsAfter id links
  · obtain ⟨links, ends⟩ := ending
    obtain ⟨kind, -, ended⟩ := ends.exists_kindOf
    rw [ended more]
    exact ended 0
  · have endless := not_exists.mp ending
    rw [kindOf, kindWithin_of_endless endless, kindWithin_of_endless endless]

/-- The kind of a declaration is that of what is behind its wrappers, the kinds that this refers to
being searched afresh: their search may go on as far as the whole one.
-/
theorem kindOf_eq_kindBy (table : DeclTable) (id : DeclId)
    : table.kindOf id = table.kindBy table.kindOf id :=
  table.kindOf_eq_kindWithin id 1

/-- The search for a kind is given up exactly if the chain of typedefs never ends. -/
theorem kindOf_eq_error {id : DeclId}
    : table.kindOf id = .error .typedefs ↔ ∀ links, ¬ table.EndsAfter id links := by
  constructor
  · intro givenUp links ends
    obtain ⟨kind, -, ended⟩ := ends.exists_kindOf
    have found : table.kindOf id = .ok kind := ended 0
    rw [givenUp] at found
    contradiction
  · exact fun endless => kindWithin_of_endless endless _

/-- A search ends with one kind only, by induction on how it is searched. -/
theorem Classifies.unique {id : DeclId} {kind other : Option Kind}
    (classifies : table.Classifies id kind) (again : table.Classifies id other)
    : other = kind := by
  induction classifies generalizing other with
  | direct ground own =>
      cases again with
      | direct _ found => exact Except.ok.inj (found.symm.trans own)
      | typedef based _ => simp [ground] at based
  | typedef based _ ih =>
      cases again with
      | direct ground _ => simp [ground] at based
      | typedef also found =>
          obtain rfl := Option.some.inj (based.symm.trans also)
          rw [ih found]

/-- A search that ends goes along a chain that ends. -/
theorem Classifies.exists_endsAfter {id : DeclId} {kind : Option Kind}
    (classifies : table.Classifies id kind)
    : ∃ links, table.EndsAfter id links := by
  induction classifies with
  | direct ground _ => exact ⟨0, .here ground⟩
  | typedef based _ ih =>
      obtain ⟨links, ends⟩ := ih
      exact ⟨links + 1, .link based ends⟩

/-- A kind is found for a declaration exactly if the search for it ends with that kind. -/
theorem classifies_iff {id : DeclId} {kind : Option Kind}
    : table.Classifies id kind ↔ table.kindOf id = .ok kind := by
  constructor
  · intro classifies
    obtain ⟨links, ends⟩ := classifies.exists_endsAfter
    obtain ⟨own, again, ended⟩ := ends.exists_kindOf
    rw [← again.unique classifies] at ended
    exact ended 0
  · intro found
    by_cases ending : ∃ links, table.EndsAfter id links
    · obtain ⟨links, ends⟩ := ending
      obtain ⟨own, classifies, ended⟩ := ends.exists_kindOf
      have same : own = kind := Except.ok.inj ((ended 0).symm.trans found)
      exact same ▸ classifies
    · rw [kindOf_eq_error.mpr (not_exists.mp ending)] at found
      contradiction

/-- Without cycles of typedefs the search for a kind ends, for every declaration. -/
theorem Grounded.exists_kindOf (grounded : table.Grounded) (id : DeclId)
    : ∃ kind, table.kindOf id = .ok kind := by
  obtain ⟨links, ends⟩ := grounded.exists_endsAfter id
  obtain ⟨kind, -, ended⟩ := ends.exists_kindOf
  exact ⟨kind, ended 0⟩

/-- Without cycles of typedefs the kind that is found is what the search ends with. -/
theorem Grounded.exists_classifies (grounded : table.Grounded) (id : DeclId)
    : ∃ kind, table.kindOf id = .ok kind ∧ ∀ other, table.Classifies id other ↔ other = kind := by
  obtain ⟨kind, found⟩ := grounded.exists_kindOf id
  have classifies := classifies_iff.mpr found
  exact ⟨kind, found, fun other => ⟨classifies.unique, fun same => same ▸ classifies⟩⟩

theorem Grounded.exists_typeKind (grounded : table.Grounded) (type : TypeRef)
    : ∃ kind, table.typeKind type = .ok kind := by
  rw [typeKind, type.kindBy_eq]
  cases ground : type.basis? with
  | none =>
      obtain ⟨kind, ended⟩ := TypeRef.exists_kindBy_of_ground type ground
      exact ⟨kind, ended _⟩
  | some basis => exact grounded.exists_kindOf basis

end DeclTable

end Highlighter
