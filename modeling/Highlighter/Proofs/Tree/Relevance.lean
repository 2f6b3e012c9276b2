import Highlighter.Proofs.Tree.Misfits
import Highlighter.Tree.Relevance

/-! What a tree does not reach is irrelevant to reading it. References are followed from where they
are asked for, so only declarations that are reached are looked up, and two lists that have the same
ones lead through the same errands to the same end, be it a tree or a misfit.
-/

namespace Highlighter

open Json (lookup)

variable {json other : Json}

/-- Errands are done alike with two lists that have the same declarations where they lead, by
induction over the errands.
-/
theorem Errand.run_congr {mainFile : String} {decls others : Members} {begun : Begun}
    {errands : List Errand} (declared : ∀ id, json.declared? id = lookup id decls)
    (same : ∀ id, json.Reaches id → lookup id decls = lookup id others)
    (each : ∀ errand ∈ errands, errand.Of json)
    : run mainFile decls begun errands = run mainFile others begun errands := by
  induction begun, errands using run.induct mainFile decls with
  | case1 begun => rw [run, run]
  | case2 begun misfit rest => rw [run, run]
  | case3 begun reference rest already ih =>
      rw [run_already already, run_already already]
      exact ih (List.forall_mem_cons.mp each).2
  | case4 begun reference rest fresh missing =>
      have stands : reference.Of json := each _ List.mem_cons_self
      rw [run_missing fresh missing, run_missing fresh (same _ stands.reaches ▸ missing)]
  | case5 begun reference rest fresh value found reading ih =>
      obtain ⟨stands, later⟩ := List.forall_mem_cons.mp each
      have stands : reference.Of json := stands
      have listed : json.declared? reference.id = some value := by rw [declared, found]
      rw [run_found fresh found, run_found fresh (same _ stands.reaches ▸ found)]
      exact ih (List.forall_mem_append.mpr ⟨of_errands_decl stands listed, later⟩)

theorem exists_of_isOk {α β : Type} {result : Except α β} (ok : result.isOk = true)
    : ∃ value, result = .ok value := by
  cases result with
  | ok value => exact ⟨value, rfl⟩
  | error reason => contradiction

theorem Json.object_of_isObject (isObject : json.isObject = true)
    : ∃ members, json = .object members := by
  cases json with
  | object members => exact ⟨members, rfl⟩
  | _ => contradiction

theorem Heading.read_of_not_isObject (isNone : json.isObject = false)
    : (Heading.read json).result = .error ⟨.root, .object⟩ := by
  cases json with
  | object members => contradiction
  | _ => rfl

/-- The head of an object is read member by member, by the laws of readings. -/
theorem Heading.read_object (members : Members)
    : Heading.read (.object members) = do
        let mainFile ←
          Reading.string (Place.root.member "mainFile") (lookup "mainFile" members)
        let text ← Reading.string (Place.root.member "text") (lookup "text" members)
        let decls ← Reading.orDefault (lookup "decls" members) []
          (Reading.object (Place.root.member "decls"))
        return ⟨mainFile, text, decls, members⟩ :=
  pure_bind members _

/-- What a head says of a tree, apart from the declarations that it lists. -/
def Heading.remainder (heading : Heading) : String × String × Reading (List Node × List Range) :=
  (heading.mainFile, heading.text, heading.body)

/-- A list of declarations is read for what it is, of whatever form they are. -/
theorem Json.ListsDecls.read {members : Members} (lists : (Json.object members).ListsDecls)
    (place : Place)
    : ∃ decls,
        (Reading.orDefault (lookup "decls" members) [] (Reading.object place)).result
          = .ok decls := by
  cases found : lookup "decls" members with
  | none => exact ⟨[], rfl⟩
  | some table =>
      cases table with
      | object decls => exact ⟨decls, rfl⟩
      | _ => nomatch lists _ found

/-- The heads of two trees that differ in irrelevant declarations are read alike, and so is what
stands below them.
-/
theorem Json.SameReached.heading (same : json.SameReached other)
    : (Heading.read json).result.map Heading.remainder
      = (Heading.read other).result.map Heading.remainder := by
  cases isObject : json.isObject with
  | false =>
      rw [Heading.read_of_not_isObject isObject,
        Heading.read_of_not_isObject (same.objects ▸ isObject)]
  | true =>
      obtain ⟨members, rfl⟩ := Json.object_of_isObject isObject
      obtain ⟨others, rfl⟩ := Json.object_of_isObject (same.objects ▸ isObject)
      have alike (key : String) (differs : key ≠ "decls")
          : lookup key others = lookup key members :=
        (same.elsewhere key differs).symm
      have remainder (mainFile text : String) (decls table : Members)
          : Heading.remainder ⟨mainFile, text, decls, members⟩
            = Heading.remainder ⟨mainFile, text, table, others⟩ := by
        simp only [Heading.remainder, Heading.body, alike "nodes" (by decide),
          alike "macros" (by decide)]
      rw [Heading.read_object, Heading.read_object, alike "mainFile" (by decide),
        alike "text" (by decide)]
      simp only [Reading.map_result_bind]
      congr 1
      funext mainFile
      congr 1
      funext text
      rcases same.tables with equal | ⟨lists, otherLists⟩
      · have equal : lookup "decls" members = lookup "decls" others := equal
        rw [equal]
        congr 1
        funext decls
        exact congrArg Except.ok (remainder mainFile text decls decls)
      · obtain ⟨decls, read⟩ := lists.read (Place.root.member "decls")
        obtain ⟨table, otherRead⟩ := otherLists.read (Place.root.member "decls")
        rw [read, otherRead]
        exact congrArg Except.ok (remainder mainFile text decls table)

/-- Two values that are the same tree, apart from declarations that it does not reach and from the
order in which declarations are listed, are read as the same tree or refused for the same reason.
-/
theorem Tree.ofJson_of_sameReached (path : String) (same : json.SameReached other)
    : ofJson path json = ofJson path other := by
  have heads := same.heading
  have read : Tree.read json = Tree.read other := by
    cases head : (Heading.read json).result with
    | error misfit =>
        cases otherHead : (Heading.read other).result with
        | error another =>
            rw [head, otherHead] at heads
            cases heads
            simp only [Tree.read, head, otherHead]
        | ok another => simp [head, otherHead, Except.map] at heads
    | ok heading =>
        cases otherHead : (Heading.read other).result with
        | error misfit => simp [head, otherHead, Except.map] at heads
        | ok another =>
            rw [head, otherHead] at heads
            obtain ⟨mainFile, text, body⟩ :
                heading.mainFile = another.mainFile
                ∧ heading.text = another.text
                ∧ heading.body = another.body := by
              simpa [Except.map, Heading.remainder] using heads
            have run : Errand.run heading.mainFile heading.decls [] heading.body.errands
                = Errand.run heading.mainFile another.decls [] heading.body.errands := by
              refine Errand.run_congr (Heading.declared?_eq head) ?_
                (Errand.of_errands (Heading.honest_body head))
              intro id reached
              rw [← Heading.declared?_eq head, ← Heading.declared?_eq otherHead,
                same.reached id reached]
            simp only [Tree.read, head, otherHead, bind, Except.bind, run, ← mainFile, ← text,
              ← body]
  rw [ofJson, ofJson, read]

namespace Tree

/-- Two declarations that refer to each other, with others around them. -/
def ringAmong (around : Members → Members) : Json :=
  .object [("mainFile", .string "main.cpp"), ("text", .string ""),
    ("decls", .object (around [
      ("T", .object [("name", .string "T"), ("kind", .string "Template"),
        ("templated", .string "U")]),
      ("U", .object [("name", .string "U"), ("kind", .string "UsingShadow"),
        ("target", .string "T")])])),
    ("nodes", .array [.object [("shape", .string "declaration"), ("decl", .string "T")]])]

/-- Two declarations that refer to each other, and an entry that is no declaration. -/
def ring : Json := ringAmong fun decls => ("V", .null) :: decls

/-- The same two in the other order, with others that refer to them. -/
def turnedRing : Json :=
  ringAmong fun decls =>
    ("V", .object [("name", .string "V"), ("kind", .string "Template"), ("templated", .string "T")])
      :: decls.reverse ++ [("W", .object [("target", .string "U")])]

theorem ofJson_of_sameReached_ring
    : ring.SameReached turnedRing ∧ ofJson "ring.json" ring = ofJson "ring.json" turnedRing := by
  have isTree : ring.IsTree := by
    refine read_isTree.mp (read_isOk.mpr ⟨_, rfl, exists_of_isOk ?_⟩)
    cbv
  have reached (id : DeclId) (reaches : ring.Reaches id) : id = "T" ∨ id = "U" := by
    obtain ⟨value, listed, fits⟩ := isTree.known id reaches
    by_cases first : "V" = id
    · subst first
      cases listed
      cases fits
    by_cases second : "T" = id
    · exact .inl second.symm
    by_cases third : "U" = id
    · exact .inr third.symm
    simp [ring, ringAmong, Json.declared?, Json.get?, lookup, first, second, third] at listed
  have same : ring.SameReached turnedRing := {
    objects := rfl
    elsewhere key other := by
      simp [ring, turnedRing, ringAmong, Json.get?, lookup, Ne.symm other]
    tables := by
      refine .inr ⟨?_, ?_⟩
      all_goals
        rintro table found
        cases found
        rfl
    reached id reaches := by
      rcases reached id reaches with rfl | rfl
      all_goals rfl
  }
  exact ⟨same, ofJson_of_sameReached "ring.json" same⟩

end Tree

end Highlighter
