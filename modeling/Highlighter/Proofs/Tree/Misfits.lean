import Highlighter.Proofs.Tree.Acceptance
import Highlighter.Proofs.Tree.Honesty

/-! Each part of a tree is read honestly where its form is asked for, and the declarations that it
refers to are asked for in turn. So a tree that is refused is refused for what is wrong with it: the
grammar asks for something at the place that is named, and what is there fails the check.
-/

namespace Highlighter

open Grammar
open Json (lookup)

namespace Reading

variable {json : Json} {place : Place} {value : Option Json}

-----------------------------------------------------------------------------------------
-- Locations, names and types
-----------------------------------------------------------------------------------------

section

variable {record : Record} {members : Members} {mainFile : String}

theorem honest_fileLocation (within : json.Finds place (.record record) (some (.object members)))
    (listed : ∀ field ∈ filePositionFields, field ∈ record.fields members)
    : (fileLocation mainFile place members).Honest json := by
  obtain ⟨file, line, character, _⟩ :
      defaulted "file" .text ∈ record.fields members
      ∧ required "line" .coordinate ∈ record.fields members
      ∧ required "character" .coordinate ∈ record.fields members ∧ True := by
    simpa [filePositionFields, positionFields] using listed
  refine .bind (.defaulted within file fun _ finds => honest_string finds trivial) fun _ _ => ?_
  refine .bind (honest_coordinate (within.required line)) fun _ _ => ?_
  exact .bind (honest_coordinate (within.required character)) fun _ _ => .pure _

theorem honest_presentLocation (finds : json.Finds place (.record .location) value)
    : (presentLocation mainFile place value).Honest json := by
  refine .bind (honest_object finds) fun members read => ?_
  obtain rfl := result_object.mp read
  split
  next inMacro =>
    have fields : Record.fields members .location
        = [required "argument" .flag, required "spelling" (.record .filePosition)] := by
      simp [Record.fields, locationFields, inMacro]
    refine .bind (honest_boolean (finds.required (by simp [fields]))) fun _ _ => ?_
    have spelling
        : json.Finds (place.member "spelling") (.record .filePosition)
            (lookup "spelling" members) :=
      finds.required (by simp [fields])
    refine .bind (honest_object spelling) fun parts read => ?_
    rw [result_object.mp read] at spelling
    exact .bind (honest_fileLocation spelling fun _ => id) fun _ _ => .pure _
  next inFile =>
    have fields : Record.fields members .location = filePositionFields := by
      rw [Record.fields, locationFields]
      split
      next inMacro => exact absurd inMacro inFile
      next => rfl
    refine .bind (honest_fileLocation finds fun _ listed => fields ▸ listed) fun _ _ => .pure _

theorem honest_location {key : String}
    (within : json.Finds place (.record record) (some (.object members)))
    (listed : nullable key (.record .location) ∈ record.fields members)
    : (location mainFile place members key).Honest json :=
  .nullable within listed fun _ => honest_presentLocation

theorem honest_name (finds : json.Finds place .name value) : (name place value).Honest json := by
  unfold name
  split
  next => exact .done _
  next bare =>
    have full : json.Finds place (.record .name) value :=
      ⟨.fullName finds.asked fun text found => bare text (finds.found ▸ found), finds.found⟩
    refine .bind (honest_object full) fun members read => ?_
    obtain rfl := result_object.mp read
    simp only [← bind_assoc]
    refine .bind ?_ fun form _ => .bind ?_ fun _ _ => .pure _
    · have kind : json.Finds (place.member "kind") (.word nameForms) (lookup "kind" members) :=
        full.required (by simp [Record.fields])
      exact honest_word isSome_nameForm (fun _ => rfl) (fun _ unlisted => ⟨rfl, unlisted⟩) kind
    · have text : defaulted "text" .text ∈ Record.fields members .name := by simp [Record.fields]
      exact .defaulted full text fun _ finds => honest_string finds trivial

/-- A type is read honestly, by recursion on the size of its JSON form. -/
theorem honest_type (place : Place) (type : Json)
    : json.Finds place (.record .type) (some type) → (Reading.type place type).Honest json := by
  cases type with
  | object members =>
      intro finds
      rw [Reading.type]
      refine .variants finds (fun _ => id) ?known ?unknown
      case known =>
        simp only [types, List.forall_mem_cons]
        refine ⟨?builtin, ?templateParameter, ?tag, ?sugared, fun _ => .pure _, by simp⟩
        case builtin =>
          rintro ⟨name, _⟩
          exact .bind (.defaulted finds name fun _ finds => honest_string finds trivial) fun _ _ =>
            .pure _
        case templateParameter =>
          rintro ⟨decl, _⟩
          exact .bind (.nullable finds decl fun _ => honest_reference) fun _ _ => .pure _
        case tag =>
          rintro ⟨decl, _⟩
          exact .bind (honest_reference (finds.required decl)) fun _ _ => .pure _
        case sugared =>
          rintro ⟨sugar, below, _⟩
          simp only [← bind_assoc]
          refine .bind ?_ fun _ _ => ?_
          · exact honest_word isSome_sugar (fun _ => rfl) (fun _ unlisted => ⟨rfl, unlisted⟩)
              (finds.required sugar)
          · rw [underlying_eq]
            -- What is underlying is one of the members, so it is smaller than the type.
            cases found : lookup "underlying" members with
            | none => exact .bind (.done none) fun _ _ => .pure _
            | some underlying =>
                have := sizeOf_lookup found
                rw [← found]
                refine .bind (.nullable finds below fun value there => ?_) fun _ _ => .pure _
                have same : value = underlying := by
                  have here := there.found
                  rw [Json.at?_member, finds.found] at here
                  exact Option.some.inj (here.symm.trans found)
                subst same
                exact honest_type _ _ there
      case unknown =>
        intro word unlisted kind
        split
        case h_6 => exact .fail kind rfl ⟨rfl, unlisted⟩
        all_goals exact absurd (by decide) unlisted
  | _ => exact fun finds => .fail finds trivial (by simp [Check.FailedBy])
termination_by sizeOf type

theorem honest_presentType (finds : json.Finds place (.record .type) value)
    : (presentType place value).Honest json := by
  cases value with
  | none => exact .fail finds trivial nofun
  | some type => exact honest_type place type finds

-----------------------------------------------------------------------------------------
-- Declarations
-----------------------------------------------------------------------------------------

theorem honest_referenceList (finds : json.Finds place (.array .reference) value)
    : (referenceList place value).Honest json := by
  refine .bind (honest_array finds) fun items read => ?_
  obtain rfl := result_array.mp read
  refine honest_items (fun index item => reference (place.item index) (some item)) (fun _ => rfl)
    (fun _ _ _ => rfl) 0 fun index item listed => ?_
  rw [Nat.zero_add]
  exact honest_reference (finds.item listed)

theorem honest_optional {α : Type} {key : String} {make : Option DeclId → α}
    (within : json.Finds place (.record record) (some (.object members)))
    (listed : nullable key .reference ∈ record.fields members)
    : (Reading.optional (lookup key members) (reference (place.member key))
        >>= fun id => Pure.pure (make id)).Honest json :=
  .bind (.nullable within listed fun _ => honest_reference) fun _ _ => .pure _

theorem honest_entity (within : json.Finds place (.record record) (some (.object members)))
    : ∀ variant ∈ declarations,
        (∀ field ∈ variant.2, field ∈ record.fields members)
        → (entity mainFile place members variant.1).Honest json := by
  have flag {key : String} {make : Bool → Entity}
      (listed : defaulted key .flag ∈ record.fields members)
      : (orDefault (lookup key members) false (boolean (place.member key))
          >>= fun flag => Pure.pure (make flag)).Honest json :=
    .bind (.defaulted within listed fun _ => honest_boolean) fun _ _ => .pure _
  simp only [declarations, List.forall_mem_cons]
  refine ⟨fun own => honest_optional within own.1, fun own => honest_optional within own.1,
    ?typedef, ?namespaceAlias, ?usingList, fun own => flag own.1, fun own => flag own.1,
    ?variableName, ?others⟩
  case typedef =>
    rintro ⟨underlying, _⟩
    exact .bind (.nullable within underlying fun _ => honest_presentType) fun _ _ => .pure _
  case namespaceAlias =>
    rintro ⟨targetName, aliased, _⟩
    exact .bind (honest_location within targetName) fun _ _ =>
      honest_optional within aliased
  case usingList =>
    rintro ⟨shadows, _⟩
    exact .bind (.defaulted within shadows fun _ => honest_referenceList) fun _ _ => .pure _
  case variableName =>
    rintro ⟨storage, _⟩
    show (_ >>= fun word => known _ (Storage.ofWord? word) _ >>= _).Honest json
    rw [← bind_assoc]
    refine .bind ?_ fun _ _ => .pure _
    cases found : lookup "storage" members with
    | none => exact .done _
    | some word =>
        have finds := within.member storage (.inr (by simp [found]))
        exact honest_word isSome_storage (fun _ => rfl) (fun _ unlisted => ⟨rfl, unlisted⟩)
          (found ▸ finds)
  case others =>
    exact ⟨fun _ => .pure _, fun _ => .pure _, fun _ => .pure _, fun _ => .pure _,
      fun _ => .pure _, fun _ => .pure _, fun _ => .pure _, fun _ => .pure _, fun _ => .pure _,
      fun _ => .pure _, fun _ => .pure _, fun _ => .pure _, fun _ => .pure _, by simp⟩

/-- A declaration is read honestly where it is listed. -/
theorem honest_decl {id : DeclId} {value : Json}
    (finds : json.Finds (declPlace id) (.record .declaration) (some value))
    : (decl mainFile id value).Honest json := by
  refine .bind (honest_object finds) fun members read => ?_
  cases Option.some.inj (result_object.mp read)
  have fields : Record.fields members .declaration
      = required "name" .name :: nullable "location" (.record .location)
        :: oneOf declarations "kind" members := rfl
  refine .bind (honest_name (finds.required (by simp [fields]))) fun _ _ => ?_
  refine .bind (honest_location finds (by simp [fields])) fun _ _ => ?_
  simp only [← bind_assoc]
  refine .bind (.variants finds ?_ (honest_entity finds) ?_) fun _ _ => .pure _
  · intro field listed
    simp [fields, listed]
  · intro word unlisted kind
    unfold entity
    split
    case h_22 => exact .fail kind rfl ⟨rfl, unlisted⟩
    all_goals exact absurd (by decide) unlisted

-----------------------------------------------------------------------------------------
-- Nodes
-----------------------------------------------------------------------------------------

theorem honest_placeholder {parts : Members}
    (finds : json.Finds place (.record .placeholder) (some (.object parts)))
    : (placeholder mainFile place (some parts)).Honest json := by
  have fields : Record.fields parts .placeholder
      = [nullable "location" (.record .location), nullable "deduced" (.record .type)] := rfl
  refine .bind (honest_location finds (by simp [fields])) fun _ _ => ?_
  refine .bind (.nullable finds (by simp [fields]) fun _ => honest_presentType) fun _ _ => .pure _

/-- A placeholder is asked for as soon as it is there, before the declaration and after it. -/
theorem honest_declaration (within : json.Finds place (.record record) (some (.object members)))
    (declared : required "decl" .reference ∈ record.fields members)
    (standing : defaulted "placeholder" (.record .placeholder) ∈ record.fields members)
    (location : Option Location)
    : (shapeBy mainFile place members location "declaration").Honest json := by
  show (placeholderMembers place members >>= _).Honest json
  have reference := honest_reference (within.required declared)
  cases found : lookup "placeholder" members with
  | none =>
      have parts : placeholderMembers place members = pure none := by
        simp [placeholderMembers, found]
      rw [parts, pure_bind]
      exact .bind reference fun _ _ => .bind (.pure _) fun _ _ => .pure _
  | some value =>
      have finds := within.member standing (.inr (by simp [found]))
      rw [defaulted, found] at finds
      have checked : placeholderMembers place members
          = object (place.member "placeholder") (some value)
            >>= fun parts => pure (some parts) := by
        simp [placeholderMembers, found]
      rw [checked, bind_assoc]
      refine .bind (honest_object finds) fun parts read => ?_
      cases Option.some.inj (result_object.mp read)
      rw [pure_bind]
      exact .bind reference fun _ _ => .bind (honest_placeholder finds) fun _ _ => .pure _

theorem honest_shapeBy (within : json.Finds place (.record record) (some (.object members)))
    (location : Option Location)
    : ∀ variant ∈ shapes,
        (∀ field ∈ variant.2, field ∈ record.fields members)
        → (shapeBy mainFile place members location variant.1).Honest json := by
  simp only [shapes, List.forall_mem_cons]
  refine ⟨fun own => honest_declaration within own.1 own.2.1 location, ?declRef, ?memberAccess,
    ?overloadRef, ?dependentDeclRef, ?dependentMemberAccess, ?typedefTypeRef,
    fun own => honest_optional within own.1, ?tagTypeRef, ?decltypeRef, fun _ => .pure _,
    fun _ => .pure _, ?namespaceQualifier, fun own => honest_optional within own.1, by simp⟩
  case declRef | memberAccess =>
    rintro ⟨name, decl, _⟩
    refine .bind (honest_name (within.required name)) fun _ _ => ?_
    exact .bind (honest_reference (within.required decl)) fun _ _ => .pure _
  case overloadRef =>
    rintro ⟨name, candidates, _⟩
    refine .bind (honest_name (within.required name)) fun _ _ => ?_
    exact .bind (honest_referenceList (within.required candidates)) fun _ _ => .pure _
  case dependentDeclRef | dependentMemberAccess =>
    rintro ⟨name, _⟩
    exact .bind (honest_name (within.required name)) fun _ _ => .pure _
  case typedefTypeRef =>
    rintro ⟨decl, _⟩
    exact .bind (honest_reference (within.required decl)) fun _ _ => .pure _
  case tagTypeRef =>
    rintro ⟨type, isDefinition, _⟩
    refine .bind (honest_presentType (within.required type)) fun _ _ => ?_
    exact .bind (.defaulted within isDefinition fun _ => honest_boolean) fun _ _ => .pure _
  case decltypeRef =>
    rintro ⟨type, _⟩
    exact .bind (honest_presentType (within.required type)) fun _ _ => .pure _
  case namespaceQualifier =>
    rintro ⟨specifier, _⟩
    show (_ >>= fun word => known _ (Qualifier.ofWord? word) _ >>= _).Honest json
    rw [← bind_assoc]
    refine .bind ?_ fun _ _ => .pure _
    exact honest_word isSome_qualifier (fun _ => rfl) (fun _ unlisted => ⟨rfl, unlisted⟩)
      (within.required specifier)

theorem honest_shape (within : json.Finds place (.record .node) (some (.object members)))
    : (shape mainFile place members).Honest json := by
  have fields : Record.fields members .node
      = defaulted "children" (.array (.record .node)) :: nullable "location" (.record .location)
        :: oneOf shapes "shape" members := rfl
  have location : (location mainFile place members "location").Honest json :=
    honest_location within (by simp [fields])
  have own : ∀ field ∈ oneOf shapes "shape" members, field ∈ Record.fields members .node := by
    intro field listed
    simp [fields, listed]
  refine .variants within own ?_ ?_
  · intro variant listed own
    exact .bind location fun location _ => honest_shapeBy within location variant listed own
  · intro word unlisted asked
    refine .bind location fun location _ => ?_
    unfold shapeBy
    split
    case h_15 => exact .fail asked rfl ⟨rfl, unlisted⟩
    all_goals exact absurd (by decide) unlisted

mutual
/-- A node is read honestly, by recursion on the size of its JSON form. -/
theorem honest_node (place : Place) (value : Json)
    : json.Finds place (.record .node) (some value) → (node mainFile place value).Honest json := by
  cases value with
  | object members =>
      intro finds
      rw [node]
      refine .bind ?_ fun _ _ => .bind (honest_shape finds) fun _ _ => .pure _
      rw [children_eq]
      cases found : lookup "children" members with
      | none => exact .pure _
      | some list =>
          have := sizeOf_lookup found
          have listed : defaulted "children" (.array (.record .node))
              ∈ Record.fields members .node :=
            List.mem_cons_self
          have children := finds.member listed (.inr (by simp [found]))
          rw [defaulted, found] at children
          exact .bind (honest_nodes _ _ children) fun _ _ => .pure _
  | _ => exact fun finds => .fail finds trivial nofun
termination_by sizeOf value

theorem honest_nodes (place : Place) (value : Json)
    : json.Finds place (.array (.record .node)) (some value)
      → (nodes mainFile place value).Honest json := by
  cases value with
  | array items =>
      intro finds
      rw [nodes]
      refine honest_items (fun index item => node mainFile (place.item index) item) ?_ ?_ 0 ?_
      · intro index
        rw [nodesFrom]
      · intro index item rest
        rw [nodesFrom]
      · intro index item listed
        have := List.sizeOf_lt_of_mem (List.mem_of_getElem? listed)
        rw [Nat.zero_add]
        exact honest_node _ item (finds.item listed)
  | _ => exact fun finds => .fail finds trivial nofun
termination_by sizeOf value
end

theorem honest_presentNodes (finds : json.Finds place (.array (.record .node)) value)
    : (presentNodes mainFile place value).Honest json := by
  cases value with
  | none => exact .fail finds trivial nofun
  | some nodes => exact honest_nodes place nodes finds

-----------------------------------------------------------------------------------------
-- Ranges and trees
-----------------------------------------------------------------------------------------

theorem honest_range {value : Json} (finds : json.Finds place (.record .range) (some value))
    : (range place value).Honest json := by
  refine .bind (honest_object finds) fun members read => ?_
  cases Option.some.inj (result_object.mp read)
  have fields : Record.fields members .range
      = [required "start" (.record .position), required "end" (.record .position)] := rfl
  have start : json.Finds (place.member "start") (.record .position) (lookup "start" members) :=
    finds.required (by simp [fields])
  have stop : json.Finds (place.member "end") (.record .position) (lookup "end" members) :=
    finds.required (by simp [fields])
  refine .bind (honest_object start) fun startParts read => ?_
  rw [result_object.mp read] at start
  refine .bind (honest_object stop) fun stopParts read => ?_
  rw [result_object.mp read] at stop
  have line : required "line" .coordinate ∈ positionFields := List.mem_cons_self
  have character : required "character" .coordinate ∈ positionFields := by simp [positionFields]
  refine .bind (honest_coordinate (start.required line)) fun _ _ => ?_
  refine .bind (honest_coordinate (start.required character)) fun _ _ => ?_
  refine .bind (honest_coordinate (stop.required line)) fun _ _ => ?_
  exact .bind (honest_coordinate (stop.required character)) fun _ _ => .pure _

theorem honest_ranges (finds : json.Finds place (.array (.record .range)) value)
    : (ranges place value).Honest json := by
  refine .bind (honest_array finds) fun items read => ?_
  obtain rfl := result_array.mp read
  refine honest_items (fun index item => range (place.item index) item) (fun _ => rfl)
    (fun _ _ _ => rfl) 0 fun index item listed => ?_
  rw [Nat.zero_add]
  exact honest_range (finds.item listed)

end

end Reading

-----------------------------------------------------------------------------------------
-- Trees
-----------------------------------------------------------------------------------------

variable {json : Json}

/-- What is referred to where references are asked for is reached. -/
theorem Reference.Of.reaches {reference : Reference} (stands : reference.Of json)
    : json.Reaches reference.id :=
  stands.asked.reaches stands.found (.reference _)

/-- A reference leads to a declaration where the tree lists it. -/
theorem Reference.Of.finds {reference : Reference} (stands : reference.Of json) {value : Json}
    (declared : json.declared? reference.id = some value)
    : json.Finds (Reading.declPlace reference.id) (.record .declaration) (some value) where
  asked := .declaration stands.asked stands.found declared
  found := by rw [Json.at?_declPlace, declared]

namespace Errand

/-- A reference is to be followed from where one is asked for, or a misfit reported where there is
one.
-/
def Of (json : Json) : Errand → Prop
  | follow reference => reference.Of json
  | report misfit => misfit.Of json

/-- An honest reading brings errands of this kind only. -/
theorem of_errands {α : Type} {reading : Reading α} (honest : reading.Honest json)
    : ∀ errand ∈ reading.errands, errand.Of json := by
  intro errand listed
  unfold Reading.errands at listed
  rcases List.mem_append.mp listed with noted | failed
  · obtain ⟨reference, here, rfl⟩ := List.mem_map.mp noted
    exact honest.references reference here
  · cases result : reading.result with
    | ok value => simp [result] at failed
    | error misfit =>
        simp only [result, List.mem_singleton] at failed
        rw [failed]
        exact honest.misfit misfit result

/-- The errands of a declaration that is referred to are of this kind, too. -/
theorem of_errands_decl {mainFile : String} {reference : Reference} (stands : reference.Of json)
    {value : Json} (declared : json.declared? reference.id = some value)
    : ∀ errand ∈ (Reading.decl mainFile reference.id value).errands, errand.Of json :=
  of_errands (Reading.honest_decl (stands.finds declared))

/-- What ends the errands is a misfit of the tree, by induction over them. -/
theorem of_run {mainFile : String} {decls : Members} {begun : Begun} {errands : List Errand}
    (declared : ∀ id, json.declared? id = lookup id decls)
    (each : ∀ errand ∈ errands, errand.Of json) {misfit : Misfit}
    (failed : run mainFile decls begun errands = .error misfit)
    : misfit.Of json := by
  induction begun, errands using run.induct mainFile decls with
  | case1 begun =>
      rw [run] at failed
      contradiction
  | case2 begun other rest =>
      rw [run] at failed
      cases failed
      exact each _ List.mem_cons_self
  | case3 begun reference rest already ih =>
      rw [run_already already] at failed
      exact ih (List.forall_mem_cons.mp each).2 failed
  | case4 begun reference rest fresh missing =>
      rw [run_missing fresh missing] at failed
      cases failed
      have stands : reference.Of json := each _ List.mem_cons_self
      refine ⟨⟨.reference, stands.asked, trivial⟩, stands.found, ?_⟩
      rw [declared, missing]
  | case5 begun reference rest fresh value found reading ih =>
      obtain ⟨stands, later⟩ := List.forall_mem_cons.mp each
      rw [run_found fresh found] at failed
      have listed : json.declared? reference.id = some value := by rw [declared, found]
      exact ih (List.forall_mem_append.mpr ⟨of_errands_decl stands listed, later⟩) failed

end Errand

namespace Heading

/-- The members of a tree, with what is at their head. -/
theorem finds_of_read {heading : Heading} (read : (Heading.read json).result = .ok heading)
    : json.Finds .root (.record .tree) (some (.object heading.members)) := by
  simp only [Heading.read, Reading.result_bind, Reading.result_pure] at read
  obtain ⟨members, isObject, _, _, _, _, _, _, rfl⟩ := read
  exact ⟨.tree, Reading.result_object.mp isObject⟩

theorem honest_read : (Heading.read json).Honest json := by
  have tree : json.Finds .root (.record .tree) (some json) := ⟨.tree, rfl⟩
  refine .bind (Reading.honest_object tree) fun members read => ?_
  rw [Reading.result_object.mp read] at tree
  have text {key : String} (listed : required key .text ∈ Record.fields members .tree)
      : (Reading.string (Place.root.member key) (lookup key members)).Honest json :=
    Reading.honest_string (tree.required listed) trivial
  refine .bind (text (by simp [Record.fields])) fun _ _ => ?_
  refine .bind (text (by simp [Record.fields])) fun _ _ => ?_
  have table : defaulted "decls" (.record .table) ∈ Record.fields members .tree := by
    simp [Record.fields]
  exact .bind (.defaulted tree table fun _ => Reading.honest_object) fun _ _ => .pure _

theorem honest_body {heading : Heading} (read : (Heading.read json).result = .ok heading)
    : heading.body.Honest json := by
  have tree := finds_of_read read
  have nodes : required "nodes" (.array (.record .node)) ∈ Record.fields heading.members .tree := by
    simp [Record.fields]
  have macros
      : defaulted "macros" (.array (.record .range)) ∈ Record.fields heading.members .tree := by
    simp [Record.fields]
  refine .bind (Reading.honest_presentNodes (tree.required nodes)) fun _ _ => ?_
  exact .bind (.defaulted tree macros fun _ => Reading.honest_ranges) fun _ _ => .pure _

end Heading

namespace Tree

/-- A tree is refused for a misfit of its own. -/
theorem of_read {misfit : Misfit} (refused : Tree.read json = .error misfit) : misfit.Of json := by
  simp only [Tree.read, bind, Except.bind] at refused
  split at refused
  next other head =>
    cases refused
    exact Heading.honest_read.misfit misfit head
  next heading head =>
    have honest := Heading.honest_body head
    split at refused
    next other ended =>
      cases refused
      exact Errand.of_run (Heading.declared?_eq head) (Errand.of_errands honest) ended
    next begun done =>
      split at refused
      next other failed =>
        cases refused
        exact honest.misfit misfit failed
      next => contradiction

/-- A tree that is refused is refused with the path to a place and the text of a check. The grammar
asks for a form there that makes this check, and the value there fails it; if there is none, a
member is missing that an object must have.
-/
theorem ofJson_refused {path : String} {json : Json} {fault : LoadFault}
    (refused : ofJson path json = .error fault)
    : ∃ place check,
        fault = .misfit path ⟨place, check⟩
        ∧ fault.message
          = "Invalid resolved tree " ++ path ++ ": " ++ (place.text ++ " " ++ check.text)
        ∧ (∃ form, json.Asks place form ∧ form.Tests check)
        ∧ check.FailedBy json (json.at? place)
        ∧ ((∃ value, json.at? place = some value)
          ∨ ∃ parent key members,
              place = parent.member key
              ∧ json.at? parent = some (.object members)
              ∧ lookup key members = none) := by
  unfold ofJson at refused
  cases read : Tree.read json with
  | ok tree =>
      rw [read] at refused
      contradiction
  | error misfit =>
      rw [read] at refused
      cases refused
      obtain ⟨⟨form, asked, tests⟩, failed⟩ := of_read read
      exact ⟨misfit.place, misfit.check, rfl, rfl, ⟨form, asked, tests⟩, failed,
        asked.present_or_missing⟩

/-- A tree whose declarations refer to each other, and one of them to another that is not listed. -/
def stray : Json :=
  .object [("mainFile", .string "main.cpp"), ("text", .string ""),
    ("decls", .object [
      ("T", .object [("name", .string "T"), ("kind", .string "Typedef"),
        ("underlying", .object [("kind", .string "Tag"), ("decl", .string "U")])]),
      ("U", .object [("name", .string "U"), ("kind", .string "Using"),
        ("shadows", .array [.string "T", .string "V"])])]),
    ("nodes", .array [.object [("shape", .string "typedefTypeRef"), ("decl", .string "T")]])]

theorem ofJson_refused_stray
    : ∃ fault,
        ofJson "stray.json" stray = .error fault
        ∧ fault.message
          = "Invalid resolved tree stray.json: "
            ++ "$.decls.U.shadows[1] references unknown declaration \"V\""
        ∧ ∃ place check,
            fault.message
              = "Invalid resolved tree stray.json: " ++ (place.text ++ " " ++ check.text)
            ∧ (∃ form, stray.Asks place form ∧ form.Tests check)
            ∧ check.FailedBy stray (stray.at? place) := by
  have read
      : Tree.read stray
        = .error ⟨((Reading.declPlace "U").member "shadows").item 1, .knownDecl "V"⟩ := by
    cbv
  have refused
      : ofJson "stray.json" stray
        = .error (.misfit "stray.json"
            ⟨((Reading.declPlace "U").member "shadows").item 1, .knownDecl "V"⟩) := by
    rw [ofJson, read]
    rfl
  obtain ⟨place, check, _, message, asked, failed, _⟩ := ofJson_refused refused
  exact ⟨_, refused, by decide +kernel, place, check, message, asked, failed⟩

end Tree

end Highlighter
