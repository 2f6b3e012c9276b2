import Highlighter.Proofs.Tree.Forms
import Highlighter.Tree.Load

/-! Which JSON values are read as resolved trees: those of the grammar of trees, where only the
declarations count that are reached. The declarations that following references has begun with are
closed under references when it ends well, and it ends well if what it starts from lies in any set
that is closed so.
-/

namespace Highlighter

open Grammar
open Json (lookup)

-----------------------------------------------------------------------------------------
-- Following references
-----------------------------------------------------------------------------------------

namespace Errand

variable {mainFile : String} {decls : Members} {begun final : Begun} {errands rest : List Errand}
  {reference : Reference}

/-- The errand is to follow a reference into a set of declarations. -/
def Within (ids : DeclId → Prop) : Errand → Prop
  | follow reference => ids reference.id
  | report _ => False

/-- The errands of a reading lie within a set if it succeeds and refers to members only. -/
theorem within_errands {α : Type} {reading : Reading α} {fit : Prop} {refers ids : DeclId → Prop}
    (obeys : reading.Obeys fit refers)
    : (∀ errand ∈ reading.errands, errand.Within ids) ↔ fit ∧ ∀ id, refers id → ids id := by
  rw [← obeys.succeeds]
  unfold Reading.errands
  cases result : reading.result with
  | ok value => simp [Within, ← obeys.notes value result, Reading.Notes]
  | error misfit => simp [Within]

/-- The declaration is listed, and all that its reading asks for lies within a set. -/
def Leads (mainFile : String) (decls : Members) (ids : DeclId → Prop) (id : DeclId) : Prop :=
  ∃ value,
    lookup id decls = some value
    ∧ ∀ errand ∈ (Reading.decl mainFile id value).errands, errand.Within ids

theorem run_already (already : hasBegun begun reference.id = true)
    : run mainFile decls begun (.follow reference :: rest) = run mainFile decls begun rest := by
  rw [run]
  split <;> simp_all

theorem run_missing (fresh : hasBegun begun reference.id = false)
    (missing : lookup reference.id decls = none)
    : run mainFile decls begun (.follow reference :: rest)
      = .error ⟨reference.place, .knownDecl reference.id⟩ := by
  rw [run]
  split
  next already => simp [fresh] at already
  next =>
    split <;> simp_all

theorem run_found (fresh : hasBegun begun reference.id = false) {value : Json}
    (found : lookup reference.id decls = some value)
    : run mainFile decls begun (.follow reference :: rest)
      = run mainFile decls
          ((reference.id, (Reading.decl mainFile reference.id value).result) :: begun)
          ((Reading.decl mainFile reference.id value).errands ++ rest) := by
  rw [run]
  split
  next already => simp [fresh] at already
  next =>
    split <;> simp_all

/-- What has been begun with when all errands are done. -/
structure Settled (mainFile : String) (decls : Members) (begun : Begun) (errands : List Errand)
    (final : Begun)
    : Prop where
  kept : ∀ id, hasBegun begun id → hasBegun final id
  within : ∀ errand ∈ errands, errand.Within (hasBegun final ·)
  closed
    : ∀ id,
        hasBegun final id → hasBegun begun id ∨ Leads mainFile decls (hasBegun final ·) id

/-- When all errands are done nothing is left to follow, by induction over the errands. -/
theorem settled_of_run (done : run mainFile decls begun errands = .ok final)
    : Settled mainFile decls begun errands final := by
  induction begun, errands using run.induct mainFile decls with
  | case1 begun =>
      rw [run] at done
      cases done
      exact ⟨fun _ => id, nofun, fun _ => .inl⟩
  | case2 begun misfit rest =>
      rw [run] at done
      contradiction
  | case3 begun reference rest already ih =>
      rw [run_already already] at done
      obtain ⟨kept, within, closed⟩ := ih done
      exact ⟨kept, List.forall_mem_cons.mpr ⟨kept _ already, within⟩, closed⟩
  | case4 begun reference rest fresh missing =>
      rw [run_missing fresh missing] at done
      contradiction
  | case5 begun reference rest fresh value found reading ih =>
      rw [run_found fresh found] at done
      obtain ⟨kept, within, closed⟩ := ih done
      -- What the reading asks for comes first, and is done as the errands behind it are.
      obtain ⟨asked, later⟩ := List.forall_mem_append.mp within
      have here : hasBegun final reference.id := kept _ (by simp [hasBegun])
      refine ⟨fun id before => kept id ?_, List.forall_mem_cons.mpr ⟨here, later⟩, ?_⟩
      · simp only [hasBegun, List.any_cons, Bool.or_eq_true]
        exact .inr before
      · intro id there
        rcases closed id there with before | leads
        · simp only [hasBegun, List.any_cons, Bool.or_eq_true, decide_eq_true_eq] at before
          rcases before with rfl | before
          · exact .inr ⟨value, found, asked⟩
          · exact .inl before
        · exact .inr leads

/-- Errands within a set that leads nowhere else can be done, by induction over them. -/
theorem run_of_within {ids : DeclId → Prop} (closed : ∀ id, ids id → Leads mainFile decls ids id)
    (within : ∀ errand ∈ errands, errand.Within ids)
    : ∃ final, run mainFile decls begun errands = .ok final := by
  induction begun, errands using run.induct mainFile decls with
  | case1 begun => exact ⟨begun, by rw [run]⟩
  | case2 begun misfit rest => exact (within _ List.mem_cons_self).elim
  | case3 begun reference rest already ih =>
      rw [run_already already]
      exact ih (List.forall_mem_cons.mp within).2
  | case4 begun reference rest fresh missing =>
      obtain ⟨value, found, _⟩ := closed _ (within _ List.mem_cons_self)
      simp [missing] at found
  | case5 begun reference rest fresh value found reading ih =>
      obtain ⟨here, later⟩ := List.forall_mem_cons.mp within
      obtain ⟨listed, same, asked⟩ := closed _ here
      rw [found] at same
      cases same
      rw [run_found fresh found]
      exact ih (List.forall_mem_append.mpr ⟨asked, later⟩)

/-- Errands can be done if and only if they lie within a set that leads nowhere else. -/
theorem run_isOk
    : (∃ final, run mainFile decls [] errands = .ok final)
      ↔ ∃ ids : DeclId → Prop,
          (∀ id, ids id → Leads mainFile decls ids id) ∧ ∀ errand ∈ errands, errand.Within ids := by
  constructor
  · rintro ⟨final, done⟩
    obtain ⟨_, within, closed⟩ := settled_of_run done
    refine ⟨(hasBegun final ·), fun id begun => ?_, within⟩
    rcases closed id begun with before | leads
    · contradiction
    · exact leads
  · rintro ⟨ids, closed, within⟩
    exact run_of_within closed within

end Errand

-----------------------------------------------------------------------------------------
-- The head of a tree
-----------------------------------------------------------------------------------------

namespace Heading

/-- The head of a tree refers to no declaration, and neither does any part of it. -/
theorem references_read (json : Json) : (Heading.read json).references = [] := by
  have object (place : Place) (value : Option Json)
      : (Reading.object place value).references = [] := by
    unfold Reading.object
    split <;> rfl
  have string (place : Place) (value : Option Json)
      : (Reading.string place value).references = [] := by
    unfold Reading.string
    split <;> rfl
  refine Reading.references_bind_nil (object _ _) fun members => ?_
  refine Reading.references_bind_nil (string _ _) fun mainFile => ?_
  refine Reading.references_bind_nil (string _ _) fun text => ?_
  refine Reading.references_bind_nil ?_ fun decls => rfl
  cases lookup "decls" members with
  | none => rfl
  | some value => exact object _ _

/-- The declarations at the head of a tree are those that it lists. -/
theorem declared?_eq {json : Json} {heading : Heading}
    (read : (Heading.read json).result = .ok heading) (id : DeclId)
    : json.declared? id = lookup id heading.decls := by
  simp only [Heading.read, Reading.result_bind, Reading.result_pure] at read
  obtain ⟨members, isObject, mainFile, _, text, _, decls, listed, rfl⟩ := read
  cases Option.some.inj (Reading.result_object.mp isObject)
  cases found : lookup "decls" members with
  | none =>
      rw [found] at listed
      rw [← Except.ok.inj listed]
      simp [Json.declared?, Json.get?, found, lookup]
  | some table =>
      rw [found] at listed
      cases Option.some.inj (Reading.result_object.mp listed)
      simp [Json.declared?, Json.get?, found]

/-- A declaration leads where its written form refers to, if it has the form of one. -/
theorem leads_iff {json : Json} {heading : Heading}
    (read : (Heading.read json).result = .ok heading) (ids : DeclId → Prop) (id : DeclId)
    : Errand.Leads heading.mainFile heading.decls ids id
      ↔ ∃ value,
          json.declared? id = some value
          ∧ Fits (.record .declaration) value
          ∧ ∀ next, Refers (.record .declaration) value next → ids next := by
  simp only [Errand.Leads, declared?_eq read,
    Errand.within_errands (Reading.reads_some.mp (Reading.reads_decl heading.mainFile id _))]

/-- The body of a tree is read by the form of trees, since its head refers to nothing. -/
theorem obeys_body {json : Json} {heading : Heading}
    (read : (Heading.read json).result = .ok heading)
    : heading.body.Obeys (Fits (.record .tree) json) (Refers (.record .tree) json) := by
  have whole := Reading.reads_some.mp (Reading.reads_tree json)
  have head : Heading.read json = pure heading := by
    show _ = (⟨[], .ok heading⟩ : Reading Heading)
    rw [← references_read json, ← read]
  rw [head, pure_bind] at whole
  exact whole

end Heading

-----------------------------------------------------------------------------------------
-- Trees
-----------------------------------------------------------------------------------------

/-- A value is a tree if its references lie in a set of listed declarations that refer to no others:
what is reached is the least such set.
-/
theorem Json.isTree_iff {json : Json}
    : json.IsTree
      ↔ ∃ ids : DeclId → Prop,
          (∀ id,
            ids id
            → ∃ value,
                json.declared? id = some value
                ∧ Fits (.record .declaration) value
                ∧ ∀ next, Refers (.record .declaration) value next → ids next)
          ∧ Fits (.record .tree) json
          ∧ ∀ id, Refers (.record .tree) json id → ids id := by
  constructor
  · rintro ⟨fits, known⟩
    refine ⟨json.Reaches, fun id reached => ?_, fits, fun id => .mentioned⟩
    obtain ⟨value, found, form⟩ := known id reached
    exact ⟨value, found, form, fun next => .followed reached found⟩
  · rintro ⟨ids, closed, fits, mentioned⟩
    have member (id : DeclId) (reached : json.Reaches id) : ids id := by
      induction reached with
      | mentioned refers => exact mentioned _ refers
      | followed reached found refers member =>
          obtain ⟨value, same, _, others⟩ := closed _ member
          rw [found] at same
          cases same
          exact others _ refers
    refine ⟨fits, fun id reached => ?_⟩
    obtain ⟨value, found, form, _⟩ := closed id (member id reached)
    exact ⟨value, found, form⟩

namespace Tree

/-- A tree is read if its head is, and if all can be done that reading its body asks for. -/
theorem read_isOk {json : Json}
    : (∃ tree, Tree.read json = .ok tree)
      ↔ ∃ heading,
          (Heading.read json).result = .ok heading
          ∧ ∃ final,
              Errand.run heading.mainFile heading.decls [] heading.body.errands = .ok final := by
  constructor
  · rintro ⟨tree, read⟩
    simp only [Tree.read, bind, Except.bind] at read
    split at read
    · contradiction
    next heading head =>
      split at read
      · contradiction
      next final done => exact ⟨heading, head, final, done⟩
  · rintro ⟨heading, head, final, done⟩
    cases body : heading.body.result with
    | ok parts =>
        simp only [Tree.read, bind, Except.bind, head, done, body]
        exact ⟨_, rfl⟩
    | error misfit =>
        -- A misfit of the body is an errand, and one that cannot be done.
        have within := (Errand.settled_of_run done).within
        exact (within (.report misfit) (by simp [Reading.errands, body])).elim

/-- A JSON value is read as a tree if and only if it is one by the grammar. -/
theorem read_isTree {json : Json} : (∃ tree, Tree.read json = .ok tree) ↔ json.IsTree := by
  have whole := Reading.reads_some.mp (Reading.reads_tree json)
  rw [read_isOk, Json.isTree_iff]
  simp only [Errand.run_isOk]
  constructor
  · rintro ⟨heading, head, ids, closed, within⟩
    exact ⟨ids, fun id member => (Heading.leads_iff head ids id).mp (closed id member),
      (Errand.within_errands (Heading.obeys_body head)).mp within⟩
  · rintro ⟨ids, closed, fits, mentioned⟩
    obtain ⟨parts, read⟩ := whole.succeeds.mpr fits
    obtain ⟨heading, head, _⟩ := Reading.result_bind.mp read
    refine ⟨heading, head, ids, fun id member => ?_, ?_⟩
    · exact (Heading.leads_iff head ids id).mpr (closed id member)
    · exact (Errand.within_errands (Heading.obeys_body head)).mpr ⟨fits, mentioned⟩

-- A declaration may refer to itself, and what nothing reaches may be anything.
example
    : (Tree.read (.object [("mainFile", .string "main.cpp"), ("text", .string ""),
        ("decls", .object [
          ("S", .object [("name", .string "S"), ("kind", .string "UsingShadow"),
            ("target", .string "S")]),
          ("unused", .null)]),
        ("nodes", .array [.object [("shape", .string "declaration"), ("decl", .string "S")]])])).isOk
      = true := by
  cbv

/-- A JSON value is read as a tree if and only if it is one by the grammar, and what is reported of
any other is a misfit that the path is to blame for.
-/
theorem ofJson_isTree (path : String) (json : Json)
    : ((∃ tree, ofJson path json = .ok tree) ↔ json.IsTree)
      ∧ ((∃ misfit, ofJson path json = .error (.misfit path misfit)) ↔ ¬json.IsTree) := by
  rw [← read_isTree]
  cases read : Tree.read json with
  | ok tree =>
      have described : ofJson path json = .ok tree := by
        rw [ofJson, read]
        rfl
      simp [described]
  | error misfit =>
      have described : ofJson path json = .error (.misfit path misfit) := by
        rw [ofJson, read]
        rfl
      simp [described]

end Tree

end Highlighter
