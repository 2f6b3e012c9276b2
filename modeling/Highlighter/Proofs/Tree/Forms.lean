import Highlighter.Proofs.Tree.Reads

/-! Each part of a tree is read by its form. Types and nodes nest, so they are read by induction on
the size of their JSON form; everything else is read member by member.
-/

namespace Highlighter

open Grammar
open Json (lookup)

namespace Reading

variable {members : List (String × Json)}

-----------------------------------------------------------------------------------------
-- Locations and names
-----------------------------------------------------------------------------------------

theorem readsFields_fileLocation (mainFile : String) (place : Place)
    : (fileLocation mainFile place members).ReadsFields filePositionFields members := by
  unfold fileLocation
  refine .cons (.defaulted (reads_string _ _)) fun file _ => ?_
  refine .cons (.required (reads_coordinate _ _)) fun line _ => ?_
  exact .cons (.required (reads_coordinate _ _)) fun character _ => .nil _

/-- A location is read as one in a macro if its kind says so, as the grammar has it. -/
theorem reads_presentLocation (mainFile : String) (place : Place) (value : Option Json)
    : (presentLocation mainFile place value).Reads (.record .location) value := by
  unfold presentLocation
  refine .record fun members _ => ?_
  show ReadsFields _ (locationFields members) members
  split
  next inMacro =>
    rw [locationFields, inMacro]
    refine .cons (.required (reads_boolean _ _)) fun fromArgument _ => ?_
    refine .last (.required (.record fun spelling _ => ?_))
    exact (readsFields_fileLocation _ _).map _
  next inFile =>
    have fields : locationFields members = filePositionFields := by
      unfold locationFields
      split
      next inMacro => exact absurd inMacro inFile
      next => rfl
    rw [fields]
    exact (readsFields_fileLocation _ _).map _

theorem readsField_location (mainFile : String) (place : Place) (key : String)
    : (location mainFile place members key).ReadsField (nullable key (.record .location))
        members :=
  .nullable (reads_presentLocation _ _ _)

theorem isSome_nameForm (word : String) : (NameForm.ofWord? word).isSome ↔ word ∈ nameForms := by
  unfold NameForm.ofWord?
  split <;> simp_all [nameForms]

theorem isSome_storage (word : String) : (Storage.ofWord? word).isSome ↔ word ∈ storages := by
  unfold Storage.ofWord?
  split <;> simp_all [storages]

theorem isSome_sugar (word : String) : (Sugar.ofWord? word).isSome ↔ word ∈ sugars := by
  unfold Sugar.ofWord?
  split <;> simp_all [sugars]

theorem isSome_qualifier (word : String) : (Qualifier.ofWord? word).isSome ↔ word ∈ qualifiers := by
  unfold Qualifier.ofWord?
  split <;> simp_all [qualifiers]

/-- Reading a full name is reading a name that is no bare text. -/
theorem Reads.fullName {reading : Reading DeclName} {value : Option Json}
    (reads : reading.Reads (.record .name) value) (full : ∀ text, value ≠ some (.string text))
    : reading.Reads .name value := by
  refine Obeys.congr reads ⟨?_, ?_⟩ fun id => ⟨?_, ?_⟩
  · rintro ⟨json, found, fits⟩
    exact ⟨json, found, .name fits⟩
  · rintro ⟨json, found, fits⟩
    cases fits with
    | bareName text => exact absurd found (full text)
    | name fits => exact ⟨json, found, fits⟩
  · rintro ⟨json, found, refers⟩
    exact ⟨json, found, .name refers⟩
  · rintro ⟨json, found, refers⟩
    cases refers with
    | name refers => exact ⟨json, found, refers⟩

theorem reads_name (place : Place) (value : Option Json)
    : (name place value).Reads .name value := by
  unfold name
  split
  next text =>
    refine .pure _ (.bareName text) fun id refers => ?_
    cases refers with
    | name refers => nomatch refers
  next bare =>
    refine .fullName (.record fun members _ => ?_) bare
    simp only [← bind_assoc]
    refine .cons (.required (reads_word isSome_nameForm _ _ _)) fun form _ => ?_
    exact .cons (.defaulted (reads_string _ _)) fun text _ => .nil _

-----------------------------------------------------------------------------------------
-- Types
-----------------------------------------------------------------------------------------

/-- What a member says is smaller than all of them, by induction over them. -/
theorem sizeOf_lookup {key : String} {value : Json} (found : lookup key members = some value)
    : sizeOf value < sizeOf members := by
  induction members with
  | nil => contradiction
  | cons member rest ih =>
      obtain ⟨name, first⟩ := member
      unfold lookup at found
      split at found
      next =>
        cases found
        simp
        omega
      next =>
        have smaller := ih found
        simp
        omega

theorem underlying_eq (place : Place) (members : Members)
    : underlying place members
      = Reading.optional (lookup "underlying" members) (presentType place) := by
  induction members with
  | nil => rfl
  | cons member rest ih =>
      obtain ⟨name, first⟩ := member
      unfold underlying lookup
      split
      next => cases first <;> rfl
      next => exact ih

/-- A type is read by its form, by recursion on the size of its JSON form. -/
theorem reads_type (place : Place) (json : Json)
    : (type place json).Reads (.record .type) (some json) := by
  cases json with
  | object members =>
      rw [type]
      refine .object (.variants [] ?known ?unknown)
      case known =>
        simp only [types, List.forall_mem_cons]
        refine ⟨?builtin, ?templateParameter, ?tag, ?sugared, ?other, nofun⟩
        case builtin => exact .cons (.defaulted (reads_string _ _)) fun name _ => .nil _
        case templateParameter => exact .cons (.nullable (reads_reference _ _)) fun id _ => .nil _
        case tag => exact .cons (.required (reads_reference _ _)) fun id _ => .nil _
        case sugared =>
          simp only [← bind_assoc]
          refine .cons (.required (reads_word isSome_sugar _ _ _)) fun sugar _ => ?_
          rw [underlying_eq]
          refine .cons (.nullable ?_) fun underlying _ => .nil _
          -- The rule for nullable members asks for this one only, which is smaller than the type.
          cases found : lookup "underlying" members with
          | none => exact .fail _ _ nofun
          | some json =>
              have := sizeOf_lookup found
              exact reads_type _ json
        case other => exact .nil _
      case unknown =>
        intro word unlisted value
        split
        case h_6 => nofun
        all_goals exact absurd (by decide) unlisted
  | _ => exact .fail_object place nofun
termination_by sizeOf json

theorem reads_presentType (place : Place) (value : Option Json)
    : (presentType place value).Reads (.record .type) value := by
  cases value with
  | none => exact .fail_object place nofun
  | some json => exact reads_type place json

-----------------------------------------------------------------------------------------
-- Declarations
-----------------------------------------------------------------------------------------

theorem reads_referenceList (place : Place) (value : Option Json)
    : (referenceList place value).Reads (.array .reference) value := by
  refine reads_array fun items _ => ?_
  exact obeys_items (fun index item => reference (place.item index) (some item)) (fun _ => rfl)
    (fun _ _ _ => rfl) (fun _ _ _ => reads_reference _ _) 0

theorem readsFields_entity (mainFile : String) (place : Place)
    : ∀ variant ∈ declarations,
        (entity mainFile place members variant.1).ReadsFields variant.2 members := by
  simp only [declarations, List.forall_mem_cons]
  refine ⟨?usingShadow, ?template, ?typedef, ?namespaceAlias, ?usingList, ?record, ?method,
    ?variableName, ?others⟩
  case usingShadow => exact .cons (.nullable (reads_reference _ _)) fun target _ => .nil _
  case template => exact .cons (.nullable (reads_reference _ _)) fun templated _ => .nil _
  case typedef => exact .cons (.nullable (reads_presentType _ _)) fun underlying _ => .nil _
  case namespaceAlias =>
    refine .cons (readsField_location _ _ _) fun targetName _ => ?_
    exact .cons (.nullable (reads_reference _ _)) fun aliased _ => .nil _
  case usingList => exact .cons (.defaulted (reads_referenceList _ _)) fun shadows _ => .nil _
  case record => exact .cons (.defaulted (reads_boolean _ _)) fun isLambda _ => .nil _
  case method => exact .cons (.defaulted (reads_boolean _ _)) fun isStatic _ => .nil _
  case variableName =>
    show ReadsFields (_ >>= fun word => known _ (Storage.ofWord? word) _ >>= _) _ members
    rw [← bind_assoc]
    exact .cons (.defaultedWord isSome_storage (by simp [storages]) _ _) fun storage _ => .nil _
  case others =>
    exact ⟨.nil _, .nil _, .nil _, .nil _, .nil _, .nil _, .nil _, .nil _, .nil _, .nil _, .nil _,
      .nil _, .nil _, nofun⟩

/-- A word for no kind of declaration is a misfit. -/
theorem entity_unknown (mainFile : String) (place : Place) (kind : String)
    (unlisted : kind ∉ declarations.map (·.1)) (value : Entity)
    : (entity mainFile place members kind).result ≠ .ok value := by
  unfold entity
  split
  case h_22 => nofun
  all_goals exact absurd (by decide) unlisted

/-- A declaration is read by its form. -/
theorem reads_decl (mainFile : String) (id : DeclId) (json : Json)
    : (decl mainFile id json).Reads (.record .declaration) (some json) := by
  refine .record fun members _ => ?_
  refine .cons (.required (reads_name _ _)) fun name _ => ?_
  refine .cons (readsField_location _ _ _) fun location _ => ?_
  simp only [← bind_assoc]
  exact .map (.variants [] (readsFields_entity _ _) (entity_unknown _ _)) _

-----------------------------------------------------------------------------------------
-- Nodes
-----------------------------------------------------------------------------------------

/-- The parts of a placeholder are read by its form. -/
theorem reads_placeholder (mainFile : String) (place : Place) (parts : Members)
    : (placeholder mainFile place (some parts)).Reads (.record .placeholder)
        (some (.object parts)) := by
  refine .object (.cons (readsField_location _ _ _) fun location _ => ?_)
  exact .cons (.nullable (reads_presentType _ _)) fun deduced _ => .nil _

/-- A node of a declaration is read by its form, though its placeholder is only known to be an
object before the declaration is read, and is read after it.
-/
theorem readsFields_declaration (mainFile : String) (place : Place) (location : Option Location)
    : (shapeBy mainFile place members location "declaration").ReadsFields
        [required "decl" .reference, defaulted "placeholder" (.record .placeholder)] members := by
  show ReadsFields (placeholderMembers place members >>= _) _ members
  have declared : (reference (place.member "decl") (lookup "decl" members)).ReadsField
      (required "decl" .reference) members :=
    .required (reads_reference _ _)
  cases found : lookup "placeholder" members with
  | none =>
      have parts : placeholderMembers place members = pure none := by
        simp [placeholderMembers, found]
      rw [parts, pure_bind]
      refine .cons declared fun id _ => .cons (.absent (.inl rfl) ?_ none) fun _ _ => .nil _
      simp [found]
  | some json =>
      have present : (defaulted "placeholder" (.record .placeholder)).value? members
          = some json := by
        simp [found]
      have checked : placeholderMembers place members
          = object (place.member "placeholder") (some json) >>= fun parts => pure (some parts) := by
        simp [placeholderMembers, found]
      rw [checked, bind_assoc]
      cases json with
      | object parts =>
          show ReadsFields (reference (place.member "decl") (lookup "decl" members) >>= _) _ members
          refine .cons declared fun id _ => ?_
          exact .cons ((reads_placeholder _ _ parts).present present) fun _ _ => .nil _
      | _ =>
          refine Obeys.fails ?_ fun met => ?_
          · intro value read
            obtain ⟨parts, read, _⟩ := result_bind.mp read
            contradiction
          · have fits := (met _ (List.mem_cons_of_mem _ List.mem_cons_self)).fits _ present
            nomatch fits

theorem readsFields_shapeBy (mainFile : String) (place : Place) (location : Option Location)
    : ∀ variant ∈ shapes,
        (shapeBy mainFile place members location variant.1).ReadsFields variant.2 members := by
  simp only [shapes, List.forall_mem_cons]
  refine ⟨readsFields_declaration _ _ _, ?declRef, ?memberAccess, ?overloadRef, ?dependentDeclRef,
    ?dependentMemberAccess, ?typedefTypeRef, ?templateSpecializationRef, ?tagTypeRef,
    ?decltypeRef, .nil _, .nil _, ?namespaceQualifier, ?memberInitializer, nofun⟩
  case declRef | memberAccess =>
    refine .cons (.required (reads_name _ _)) fun name _ => ?_
    exact .cons (.required (reads_reference _ _)) fun id _ => .nil _
  case overloadRef =>
    refine .cons (.required (reads_name _ _)) fun name _ => ?_
    exact .cons (.required (reads_referenceList _ _)) fun ids _ => .nil _
  case dependentDeclRef | dependentMemberAccess =>
    exact .cons (.required (reads_name _ _)) fun name _ => .nil _
  case typedefTypeRef => exact .cons (.required (reads_reference _ _)) fun id _ => .nil _
  case templateSpecializationRef | memberInitializer =>
    exact .cons (.nullable (reads_reference _ _)) fun id _ => .nil _
  case tagTypeRef =>
    refine .cons (.required (reads_presentType _ _)) fun type _ => ?_
    exact .cons (.defaulted (reads_boolean _ _)) fun isDefinition _ => .nil _
  case decltypeRef => exact .cons (.required (reads_presentType _ _)) fun type _ => .nil _
  case namespaceQualifier =>
    show ReadsFields (_ >>= fun word => known _ (Qualifier.ofWord? word) _ >>= _) _ members
    rw [← bind_assoc]
    exact .cons (.required (reads_word isSome_qualifier _ _ _)) fun qualifier _ => .nil _

theorem shapeBy_unknown (mainFile : String) (place : Place) (location : Option Location)
    (word : String) (unlisted : word ∉ shapes.map (·.1)) (value : Shape)
    : (shapeBy mainFile place members location word).result ≠ .ok value := by
  unfold shapeBy
  split
  case h_15 => nofun
  all_goals exact absurd (by decide) unlisted

theorem readsFields_shape (mainFile : String) (place : Place)
    : (shape mainFile place members).ReadsFields
        (nullable "location" (.record .location) :: oneOf shapes "shape" members) members := by
  refine .variants [nullable "location" (.record .location)] ?_ ?_
  · intro variant listed
    exact .cons (readsField_location _ _ _) fun location _ =>
      readsFields_shapeBy mainFile place location variant listed
  · intro word unlisted value read
    obtain ⟨location, _, here⟩ := result_bind.mp read
    exact shapeBy_unknown mainFile place location word unlisted value here

theorem children_eq (mainFile : String) (place : Place)
    : children mainFile place members
      = match lookup "children" members with
        | none => pure none
        | some value => do return some (← nodes mainFile place value) := by
  induction members with
  | nil => rfl
  | cons member rest ih =>
      obtain ⟨name, first⟩ := member
      unfold children lookup
      split
      next => rfl
      next => exact ih

mutual
/-- A node is read by its form, by recursion on the size of its JSON form. -/
theorem reads_node (mainFile : String) (place : Place) (json : Json)
    : (node mainFile place json).Reads (.record .node) (some json) := by
  cases json with
  | object members =>
      rw [node]
      refine .object (.cons ?_ fun children _ => (readsFields_shape mainFile place).map _)
      rw [children_eq]
      cases found : lookup "children" members with
      | none => exact .absent (.inl rfl) (by simp [found]) none
      | some value =>
          have := sizeOf_lookup found
          exact ((reads_nodes mainFile _ value).map some).present (by simp [found])
  | _ => exact .fail_object place nofun
termination_by sizeOf json

theorem reads_nodes (mainFile : String) (place : Place) (json : Json)
    : (nodes mainFile place json).Reads (.array (.record .node)) (some json) := by
  cases json with
  | array items =>
      rw [nodes]
      refine .array ?_
      refine obeys_items (fun index item => node mainFile (place.item index) item) ?_ ?_ ?_ 0
      · intro index
        rw [nodesFrom]
      · intro index item rest
        rw [nodesFrom]
      · intro index item listed
        have := List.sizeOf_lt_of_mem listed
        exact reads_node mainFile _ item
  | _ => exact .fail_array place nofun
termination_by sizeOf json
end

theorem reads_presentNodes (mainFile : String) (place : Place) (value : Option Json)
    : (presentNodes mainFile place value).Reads (.array (.record .node)) value := by
  cases value with
  | none => exact .fail_array place nofun
  | some json => exact reads_nodes mainFile place json

-----------------------------------------------------------------------------------------
-- Ranges and trees
-----------------------------------------------------------------------------------------

/-- The two ends of a range are known to be objects before they are read. -/
theorem reads_range (place : Place) (json : Json)
    : (range place json).Reads (.record .range) (some json) := by
  refine .record fun members _ => ?_
  refine .ahead List.mem_cons_self fun start foundStart => ?_
  refine .ahead (List.mem_cons_of_mem _ List.mem_cons_self) fun stop foundStop => ?_
  -- The coordinates are those of two objects, so no rule for the fields of one applies.
  have position (place : Place) (key : String) (members : Members)
      : (coordinate (place.member key) (lookup key members)).ReadsField
          (required key .coordinate) members :=
    .required (reads_coordinate _ _)
  refine Obeys.congr (Obeys.bind (position _ "line" start) fun _ _ =>
    Obeys.bind (position _ "character" start) fun _ _ =>
    Obeys.bind (position _ "line" stop) fun _ _ =>
    Obeys.bind (position _ "character" stop) fun _ _ => Obeys.pure _) ?_ fun id => ?_
  · simp [Record.fields, positionFields, met_required, fits_record, foundStart, foundStop,
      and_assoc]
  · simp [Record.fields, positionFields, mentions_required, refers_record, foundStart, foundStop,
      or_assoc]

theorem reads_ranges (place : Place) (value : Option Json)
    : (ranges place value).Reads (.array (.record .range)) value := by
  refine reads_array fun items _ => ?_
  refine obeys_items (fun index item => range (place.item index) item) (fun _ => rfl)
    (fun _ _ _ => rfl) (fun _ _ _ => reads_range _ _) 0

/-- A table of declarations is only known to be an object. -/
theorem reads_table (place : Place) (value : Option Json)
    : (object place value).Reads (.record .table) value := by
  rw [← bind_pure (object place value)]
  exact .record fun members _ => .nil members

/-- A tree is read by its form, its nodes and macros after what stands at its head. -/
theorem reads_tree (json : Json)
    : (Heading.read json >>= Heading.body).Reads (.record .tree) (some json) := by
  simp only [Heading.read, Heading.body, bind_assoc, pure_bind]
  refine .record fun members _ => ?_
  refine .cons (.required (reads_string _ _)) fun mainFile _ => ?_
  refine .cons (.required (reads_string _ _)) fun text _ => ?_
  refine .cons (.defaulted (reads_table _ _)) fun decls _ => ?_
  refine .cons (.required (reads_presentNodes _ _ _)) fun nodes _ => ?_
  exact .cons (.defaulted (reads_ranges _ _)) fun macros _ => .nil _

end Reading

end Highlighter
