import Highlighter.Proofs.Tree.Mentions
import Highlighter.Proofs.Tree.Misfits
import Highlighter.Proofs.Tree.Writing
import Highlighter.Tree.Resolution

/-! References are resolved in finite time, however they go round in circles, and each body once: a
body is only entered for a declaration that has not been begun with, and it has from then on. What
they lead to is closed: the declarations of a tree are those that its nodes reach, each of them
being what is written under its id.
-/

namespace Highlighter

open Grammar
open Json (lookup)

-----------------------------------------------------------------------------------------
-- Resolving references
-----------------------------------------------------------------------------------------

namespace Errand

variable {mainFile : String} {decls : Members} {begun final : Begun} {errands : List Errand}
  {bodies : List DeclId} {outcome : Except Misfit Begun}

theorem hasBegun_iff {id : DeclId} : hasBegun begun id = true ↔ id ∈ begun.map Prod.fst := by
  simp [hasBegun]

/-- References are resolved in one way only, by induction on that way. -/
theorem Resolves.unique {others : List DeclId} {result : Except Misfit Begun}
    (resolves : Resolves mainFile decls begun errands bodies outcome)
    (again : Resolves mainFile decls begun errands others result)
    : others = bodies ∧ result = outcome := by
  induction resolves generalizing others result with
  | done =>
      cases again
      exact ⟨rfl, rfl⟩
  | reported =>
      cases again
      exact ⟨rfl, rfl⟩
  | again already later ih =>
      cases again with
      | again _ later => exact ih later
      | missing fresh _ | resolved fresh _ _ _ | failed fresh _ _ => simp [already] at fresh
  | missing fresh unlisted =>
      cases again with
      | again already _ => simp [already] at fresh
      | missing _ _ => exact ⟨rfl, rfl⟩
      | resolved _ listed _ _ | failed _ listed _ => simp [unlisted] at listed
  | resolved fresh listed body others ihBody ihOthers =>
      cases again with
      | again already _ => simp [already] at fresh
      | missing _ unlisted => simp [unlisted] at listed
      | resolved _ there body others =>
          cases listed.symm.trans there
          obtain ⟨rfl, same⟩ := ihBody body
          cases same
          obtain ⟨rfl, rfl⟩ := ihOthers others
          exact ⟨rfl, rfl⟩
      | failed _ there body =>
          cases listed.symm.trans there
          obtain ⟨_, same⟩ := ihBody body
          contradiction
  | failed fresh listed body ih =>
      cases again with
      | again already _ => simp [already] at fresh
      | missing _ unlisted => simp [unlisted] at listed
      | resolved _ there body _ =>
          cases listed.symm.trans there
          obtain ⟨_, same⟩ := ih body
          contradiction
      | failed _ there body =>
          cases listed.symm.trans there
          obtain ⟨rfl, same⟩ := ih body
          cases same
          exact ⟨rfl, rfl⟩

/-- Errands are done in their order: the first of them, and then the others unless there was a
misfit.
-/
theorem Resolves.split {front back : List Errand}
    (resolves : Resolves mainFile decls begun (front ++ back) bodies outcome)
    : (∃ inner between later,
        Resolves mainFile decls begun front inner (.ok between)
        ∧ Resolves mainFile decls between back later outcome
        ∧ bodies = inner ++ later)
      ∨ ∃ misfit,
          Resolves mainFile decls begun front bodies (.error misfit) ∧ outcome = .error misfit := by
  induction front generalizing begun bodies with
  | nil => exact .inl ⟨[], begun, bodies, .done, resolves, rfl⟩
  | cons first front ih =>
      rw [List.cons_append] at resolves
      cases resolves with
      | reported => exact .inr ⟨_, .reported, rfl⟩
      | again already others =>
          rcases ih others with ⟨inner, between, later, one, other, rfl⟩ | ⟨misfit, one, rfl⟩
          · exact .inl ⟨inner, between, later, .again already one, other, rfl⟩
          · exact .inr ⟨misfit, .again already one, rfl⟩
      | missing fresh unlisted => exact .inr ⟨_, .missing fresh unlisted, rfl⟩
      | resolved fresh listed body others =>
          rcases ih others with ⟨inner, between, later, one, other, rfl⟩ | ⟨misfit, one, rfl⟩
          · refine .inl ⟨_, between, later, .resolved fresh listed body one, other, ?_⟩
            simp only [List.cons_append, List.append_assoc]
          · exact .inr ⟨misfit, .resolved fresh listed body one, rfl⟩
      | failed fresh listed body => exact .inr ⟨_, .failed fresh listed body, rfl⟩

/-- The errands of every list can be done, and lead where running them does. Witness: a body that is
entered leaves fewer declarations to begin with, and an errand that is done fewer errands.
-/
theorem resolves_run (mainFile : String) (decls : Members) (begun : Begun) (errands : List Errand)
    : ∃ bodies,
        Resolves mainFile decls begun errands bodies (run mainFile decls begun errands) := by
  induction begun, errands using run.induct mainFile decls with
  | case1 begun =>
      rw [run]
      exact ⟨[], .done⟩
  | case2 begun misfit rest =>
      rw [run]
      exact ⟨[], .reported⟩
  | case3 begun reference rest already ih =>
      rw [run_already already]
      obtain ⟨bodies, later⟩ := ih
      exact ⟨bodies, .again already later⟩
  | case4 begun reference rest fresh missing =>
      rw [run_missing fresh missing]
      exact ⟨[], .missing fresh missing⟩
  | case5 begun reference rest fresh value found reading ih =>
      rw [run_found fresh found]
      obtain ⟨bodies, all⟩ := ih
      rcases all.split with ⟨inner, between, later, body, others, rfl⟩ | ⟨misfit, body, failed⟩
      · exact ⟨_, .resolved fresh found body others⟩
      · rw [failed]
        exact ⟨_, .failed fresh found body⟩

/-- When all errands are done, it has been begun with the bodies besides what it had been begun with
before.
-/
theorem Resolves.begun_eq (resolves : Resolves mainFile decls begun errands bodies outcome)
    (done : outcome = .ok final)
    : final.map Prod.fst = bodies.reverse ++ begun.map Prod.fst := by
  induction resolves generalizing final with
  | done =>
      cases done
      rfl
  | again already later ih => exact ih done
  | resolved fresh listed body others ihBody ihOthers =>
      rw [ihOthers done, ihBody rfl]
      simp
  | reported | missing fresh unlisted | failed fresh listed body ih => contradiction

/-- A body that is entered and what is resolved inside it had not been begun with. -/
theorem fresh_entered {root : DeclId} {value : Json} {result : Except Misfit Decl}
    (fresh : hasBegun begun root = false) (listed : lookup root decls = some value)
    (below
      : ∀ id ∈ bodies,
          id ∉ ((root, result) :: begun).map Prod.fst ∧ (lookup id decls).isSome)
    : ∀ id ∈ root :: bodies, id ∉ begun.map Prod.fst ∧ (lookup id decls).isSome := by
  refine List.forall_mem_cons.mpr ⟨⟨?_, by simp [listed]⟩, fun id member => ?_⟩
  · rw [← hasBegun_iff, fresh]
    decide
  · obtain ⟨unbegun, there⟩ := below id member
    exact ⟨fun before => unbegun (List.mem_cons_of_mem _ before), there⟩

/-- Only bodies are resolved that are listed and have not been begun with. -/
theorem Resolves.fresh (resolves : Resolves mainFile decls begun errands bodies outcome)
    : ∀ id ∈ bodies, id ∉ begun.map Prod.fst ∧ (lookup id decls).isSome := by
  induction resolves with
  | done | reported | missing fresh unlisted => nofun
  | again already later ih => exact ih
  | resolved fresh listed body others ihBody ihOthers =>
      refine List.forall_mem_append.mpr ⟨fresh_entered fresh listed ihBody, fun id after => ?_⟩
      obtain ⟨unbegun, there⟩ := ihOthers id after
      rw [body.begun_eq rfl] at unbegun
      exact ⟨fun before => unbegun (by simp [before]), there⟩
  | failed fresh listed body ih => exact fresh_entered fresh listed ih

/-- No body is resolved twice, by induction on how they are: those that are resolved later are no
longer fresh if they are resolved earlier.
-/
theorem Resolves.nodup (resolves : Resolves mainFile decls begun errands bodies outcome)
    : bodies.Nodup := by
  induction resolves with
  | done | reported | missing fresh unlisted => exact List.nodup_nil
  | again already later ih => exact ih
  | resolved fresh listed body others ihBody ihOthers =>
      refine List.nodup_append.mpr ⟨List.nodup_cons.mpr ⟨fun inside => ?_, ihBody⟩, ihOthers, ?_⟩
      · exact (body.fresh _ inside).1 List.mem_cons_self
      · rintro id entered _ after rfl
        have unbegun := (others.fresh _ after).1
        rw [body.begun_eq rfl] at unbegun
        simp only [List.map_cons, List.mem_append, List.mem_reverse, List.mem_cons] at unbegun
        rcases List.mem_cons.mp entered with rfl | inside
        · exact unbegun (.inr (.inl rfl))
        · exact unbegun (.inl inside)
  | failed fresh listed body ih =>
      exact List.nodup_cons.mpr ⟨fun inside => (body.fresh _ inside).1 List.mem_cons_self, ih⟩

/-- Only bodies are resolved that are reached, if the errands are those of a tree. -/
theorem Resolves.reaches {json : Json}
    (resolves : Resolves mainFile decls begun errands bodies outcome)
    (declared : ∀ id, json.declared? id = lookup id decls)
    (each : ∀ errand ∈ errands, errand.Of json)
    : ∀ id ∈ bodies, json.Reaches id := by
  induction resolves with
  | done | reported | missing fresh unlisted => nofun
  | again already later ih => exact ih (List.forall_mem_cons.mp each).2
  | resolved fresh listed body others ihBody ihOthers =>
      obtain ⟨stands, rest⟩ := List.forall_mem_cons.mp each
      have stands : Reference.Of json _ := stands
      have inside := ihBody (of_errands_decl stands (by rw [declared, listed]))
      exact List.forall_mem_append.mpr
        ⟨List.forall_mem_cons.mpr ⟨stands.reaches, inside⟩, ihOthers rest⟩
  | failed fresh listed body ih =>
      have stands : Reference.Of json _ := (List.forall_mem_cons.mp each).1
      refine List.forall_mem_cons.mpr ⟨stands.reaches, ?_⟩
      exact ih (of_errands_decl stands (by rw [declared, listed]))

/-- What has been begun with is what is read under the ids of the list. -/
theorem entries_of_run (done : run mainFile decls begun errands = .ok final)
    : ∀ entry ∈ final,
        entry ∈ begun
        ∨ ∃ value,
            lookup entry.1 decls = some value
            ∧ entry.2 = (Reading.decl mainFile entry.1 value).result := by
  induction begun, errands using run.induct mainFile decls with
  | case1 begun =>
      rw [run] at done
      cases done
      exact fun _ => .inl
  | case2 begun misfit rest =>
      rw [run] at done
      contradiction
  | case3 begun reference rest already ih =>
      rw [run_already already] at done
      exact ih done
  | case4 begun reference rest fresh missing =>
      rw [run_missing fresh missing] at done
      contradiction
  | case5 begun reference rest fresh value found reading ih =>
      rw [run_found fresh found] at done
      intro entry there
      rcases ih done entry there with before | listed
      · rcases List.mem_cons.mp before with rfl | before
        · exact .inr ⟨value, found, rfl⟩
        · exact .inl before
      · exact .inr listed

end Errand

-----------------------------------------------------------------------------------------
-- The declarations of a tree
-----------------------------------------------------------------------------------------

namespace Tree

/-- A tree has been read from a value that starts with a heading, and the references of its nodes
have led to what it has been begun with.
-/
structure ReadBy (tree : Tree) (json : Json) (heading : Heading) (final : Errand.Begun) : Prop where
  head : (Heading.read json).result = .ok heading
  run : Errand.run heading.mainFile heading.decls [] heading.body.errands = .ok final
  body : heading.body.result = .ok (tree.nodes, tree.macros)
  file : tree.source.file = heading.mainFile
  decls : tree.decls.decls = final.filterMap fun entry => entry.2.toOption

theorem readBy_of_read {tree : Tree} {json : Json} (read : Tree.read json = .ok tree)
    : ∃ heading final, tree.ReadBy json heading final := by
  simp only [Tree.read, bind, Except.bind] at read
  split at read
  · contradiction
  next heading head =>
    split at read
    · contradiction
    next final run =>
      split at read
      · contradiction
      next parts body =>
        cases read
        exact ⟨heading, final, head, run, body, rfl, rfl⟩

namespace ReadBy

variable {tree : Tree} {json : Json} {heading : Heading} {final : Errand.Begun}

/-- What it has been begun with is listed, and all that it refers to has been begun with. -/
theorem leads (readBy : tree.ReadBy json heading final) {id : DeclId}
    (begun : Errand.hasBegun final id)
    : Errand.Leads heading.mainFile heading.decls (Errand.hasBegun final ·) id := by
  rcases (Errand.settled_of_run readBy.run).closed id begun with before | leads
  · contradiction
  · exact leads

/-- It has been begun with the declarations that are reached. -/
theorem hasBegun_iff (readBy : tree.ReadBy json heading final) {id : DeclId}
    : Errand.hasBegun final id ↔ json.Reaches id := by
  constructor
  · intro begun
    obtain ⟨bodies, resolves⟩ :=
      Errand.resolves_run heading.mainFile heading.decls [] heading.body.errands
    have entered := Errand.hasBegun_iff.mp begun
    rw [resolves.begun_eq readBy.run] at entered
    exact resolves.reaches (Heading.declared?_eq readBy.head)
      (Errand.of_errands (Heading.honest_body readBy.head)) id (by simpa using entered)
  · intro reached
    induction reached with
    | mentioned refers =>
        have within := (Errand.settled_of_run readBy.run).within
        exact ((Errand.within_errands (Heading.obeys_body readBy.head)).mp within).2 _ refers
    | followed reached found refers begun =>
        obtain ⟨value, listed, _, others⟩ :=
          (Heading.leads_iff readBy.head _ _).mp (readBy.leads begun)
        cases found.symm.trans listed
        exact others _ refers

/-- What it has been begun with are declarations in the end, each of them what is written under its
id.
-/
theorem entries (readBy : tree.ReadBy json heading final)
    : ∀ entry ∈ final,
        ∃ value decl,
          json.declared? entry.1 = some value
          ∧ entry.2 = .ok decl
          ∧ decl.id = entry.1
          ∧ Written.decl tree.source.file decl value := by
  intro entry there
  rcases Errand.entries_of_run readBy.run entry there with before | ⟨value, listed, read⟩
  · contradiction
  · obtain ⟨other, found, asked⟩ :=
      readBy.leads (Errand.hasBegun_iff.mpr (List.mem_map_of_mem there))
    cases listed.symm.trans found
    cases result : (Reading.decl heading.mainFile entry.1 value).result with
    | error misfit => exact (asked (.report misfit) (by simp [Reading.errands, result])).elim
    | ok decl =>
        obtain ⟨same, written⟩ := Reading.result_decl.mp result
        refine ⟨value, decl, ?_, read.trans result, same, readBy.file ▸ written⟩
        rw [Heading.declared?_eq readBy.head, listed]

/-- The declarations of the tree have the ids that it has been begun with. -/
theorem ids_eq (readBy : tree.ReadBy json heading final)
    : tree.decls.decls.map Decl.id = final.map Prod.fst := by
  have each : ∀ entry ∈ final, entry.2.toOption.map Decl.id = some entry.1 := by
    intro entry there
    obtain ⟨_, decl, _, read, same, _⟩ := readBy.entries entry there
    rw [read, ← same]
    rfl
  rw [readBy.decls, List.map_filterMap, List.filterMap_congr each]
  exact congrFun List.filterMap_eq_map final

/-- The nodes are written where the value lists them. -/
theorem written (readBy : tree.ReadBy json heading final)
    : ∃ items,
        json.get? "nodes" = some (.array items)
        ∧ Written.nodes tree.source.file tree.nodes items := by
  have read := readBy.body
  simp only [Heading.body, Reading.result_bind, Reading.result_pure] at read
  obtain ⟨nodes, listed, macros, _, same⟩ := read
  cases same
  cases found : lookup "nodes" heading.members with
  | none =>
      rw [found] at listed
      contradiction
  | some value =>
      rw [found] at listed
      obtain ⟨items, rfl, written⟩ := Reading.written_nodes _ _ _ listed
      have whole := (Heading.finds_of_read readBy.head).found
      cases Option.some.inj whole
      exact ⟨items, found, readBy.file ▸ written⟩

/-- Each declaration of the tree is what is written under its id. -/
theorem declared (readBy : tree.ReadBy json heading final) {decl : Decl}
    (listed : decl ∈ tree.decls.decls)
    : ∃ value, json.declared? decl.id = some value ∧ Written.decl tree.source.file decl value := by
  rw [readBy.decls] at listed
  obtain ⟨entry, there, result⟩ := List.mem_filterMap.mp listed
  obtain ⟨value, other, found, read, same, written⟩ := readBy.entries entry there
  rw [read] at result
  cases Option.some.inj result
  exact ⟨value, same ▸ found, written⟩

/-- The declarations of the tree are those that are reached. -/
theorem reached (readBy : tree.ReadBy json heading final) {id : DeclId}
    : id ∈ tree.decls.decls.map Decl.id ↔ json.Reaches id := by
  rw [readBy.ids_eq, ← Errand.hasBegun_iff, readBy.hasBegun_iff]

/-- No two declarations of the tree are of one id. -/
theorem distinct (readBy : tree.ReadBy json heading final)
    : (tree.decls.decls.map Decl.id).Nodup := by
  obtain ⟨bodies, resolves⟩ :=
    Errand.resolves_run heading.mainFile heading.decls [] heading.body.errands
  rw [readBy.ids_eq, resolves.begun_eq readBy.run]
  simpa using resolves.nodup

/-- What the tree mentions is reached. -/
theorem mentioned (readBy : tree.ReadBy json heading final) {id : DeclId}
    (mentions : tree.Mentions id)
    : json.Reaches id := by
  rcases mentions with ⟨node, below, mentioned⟩ | ⟨decl, listed, mentioned⟩
  · obtain ⟨items, found, written⟩ := readBy.written
    obtain ⟨item, member, refers⟩ := Written.refers_nodes written below mentioned
    cases Option.some.inj (Heading.finds_of_read readBy.head).found
    have field : required "nodes" (.array (.record .node))
        ∈ Record.fields heading.members .tree := by
      simp [Record.fields]
    exact .mentioned (Written.refers_member field found (.array member refers))
  · obtain ⟨value, found, written⟩ := readBy.declared listed
    have here : json.Reaches decl.id := readBy.reached.mp (List.mem_map_of_mem listed)
    exact .followed here found (Written.refers_decl written mentioned)

/-- A tree is what the value says that it is read from. -/
theorem saidBy (readBy : tree.ReadBy json heading final) : tree.SaidBy json where
  nodes := readBy.written
  reached _ := List.mem_map.symm.trans readBy.reached
  distinct := readBy.distinct
  closed id mentions := by
    obtain ⟨decl, listed, same⟩ :=
      List.mem_map.mp (readBy.reached.mpr (readBy.mentioned mentions))
    have only : ∀ other ∈ tree.decls.decls, other.id = id ↔ other = decl := by
      intro other there
      refine ⟨fun alike => ?_, fun alike => alike ▸ same⟩
      exact List.inj_on_of_nodup_map readBy.distinct there listed (alike.trans same.symm)
    refine ⟨decl, ?_, only⟩
    cases found : tree.decls.find? id with
    | none => simpa [same] using List.find?_eq_none.mp found decl listed
    | some other =>
        rw [(only other (List.mem_of_find?_eq_some found)).mp (DeclTable.id_of_find? found)]
  prescribed decl listed := by
    obtain ⟨value, found, written⟩ := readBy.declared listed
    refine ⟨value, found, fun other => ⟨fun ⟨same, again⟩ => ?_, ?_⟩⟩
    · have first := Reading.result_decl.mpr ⟨rfl, written⟩
      have second := Reading.result_decl.mpr ⟨same, again⟩
      exact Except.ok.inj (second.symm.trans first)
    · rintro rfl
      exact ⟨rfl, written⟩

end ReadBy

/-- Reading a tree ends for every value. It ends in its head, or else the references are resolved in
one way only: no body is resolved twice, and only those are resolved that are reached. Then the tree
is refused for the misfit that this has led to, or read with just the declarations whose bodies have
been resolved, and is what the value says.
-/
theorem ofJson_resolves (path : String) (json : Json)
    : (∃ misfit,
        (Heading.read json).result = .error misfit
        ∧ ofJson path json = .error (.misfit path misfit))
      ∨ ∃ bodies outcome,
          (∀ others result, json.Resolves others result ↔ others = bodies ∧ result = outcome)
          ∧ bodies.Nodup
          ∧ (∀ id ∈ bodies, json.Reaches id ∧ (json.declared? id).isSome)
          ∧ (∀ misfit, outcome = .error misfit → ofJson path json = .error (.misfit path misfit))
          ∧ ∀ begun,
              outcome = .ok begun
              → ∃ tree,
                  ofJson path json = .ok tree
                  ∧ tree.decls.decls.map Decl.id = bodies.reverse
                  ∧ tree.SaidBy json := by
  cases head : (Heading.read json).result with
  | error misfit =>
      left
      refine ⟨misfit, rfl, ?_⟩
      simp only [ofJson, Tree.read, head]
      rfl
  | ok heading =>
      right
      obtain ⟨bodies, resolves⟩ :=
        Errand.resolves_run heading.mainFile heading.decls [] heading.body.errands
      have honest := Errand.of_errands (Heading.honest_body head)
      refine ⟨bodies, Errand.run heading.mainFile heading.decls [] heading.body.errands,
        fun others result => ⟨?only, ?there⟩, resolves.nodup, fun id member => ?within,
        fun misfit failed => ?refused, fun begun done => ?read⟩
      case only =>
        rintro ⟨another, again, also⟩
        cases head.symm.trans again
        exact resolves.unique also
      case there =>
        rintro ⟨rfl, rfl⟩
        exact ⟨heading, head, resolves⟩
      case within =>
        rw [Heading.declared?_eq head]
        exact ⟨resolves.reaches (Heading.declared?_eq head) honest id member,
          (resolves.fresh id member).2⟩
      case refused =>
        simp only [ofJson, Tree.read, head, bind, Except.bind, failed]
        rfl
      case read =>
        obtain ⟨tree, read⟩ := Tree.read_isOk.mpr ⟨heading, head, begun, done⟩
        obtain ⟨another, final, readBy⟩ := readBy_of_read read
        cases head.symm.trans readBy.head
        cases done.symm.trans readBy.run
        refine ⟨tree, ?_, ?_, readBy.saidBy⟩
        · simp only [ofJson, read]
          rfl
        · rw [readBy.ids_eq, resolves.begun_eq done, List.map_nil, List.append_nil]

-- Declarations that refer to each other are resolved once each, the one inside the other.
example
    : (Tree.read (.object [("mainFile", .string "main.cpp"), ("text", .string ""),
        ("decls", .object [
          ("T", .object [("name", .string "T"), ("kind", .string "Template"),
            ("templated", .string "U")]),
          ("U", .object [("name", .string "U"), ("kind", .string "UsingShadow"),
            ("target", .string "T")])]),
        ("nodes", .array [.object [("shape", .string "declaration"), ("decl", .string "T")]])])).map
        (fun tree => tree.decls.decls.map Decl.id)
      = .ok ["U", "T"] := by
  cbv

end Tree

end Highlighter
