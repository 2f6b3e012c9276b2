import Highlighter.Proofs.Tree.Forms
import Highlighter.Tree.Written

/-! What is read is what is written: a reading succeeds with a part just when the value is a written
form of that part. So a value stands for one part at most, wherever it is read.
-/

namespace Highlighter

open Json (lookup)

namespace Reading

variable {α : Type} {place : Place} {value : Option Json} {members : Members} {mainFile : String}

-----------------------------------------------------------------------------------------
-- Members
-----------------------------------------------------------------------------------------

theorem result_flag {flag : Bool}
    : (boolean place value).result = .ok flag ↔ Written.required Written.flag value flag := by
  unfold boolean
  split
  next => simp [done]
  next other => simpa [fail] using other _

theorem result_text {text : String}
    : (string place value).result = .ok text ↔ Written.required Written.text value text := by
  simp [result_string]

theorem result_coordinate {coordinate : Int}
    : (Reading.coordinate place value).result = .ok coordinate
      ↔ Written.required Written.coordinate value coordinate := by
  unfold Reading.coordinate
  split
  next number =>
    split
    next n natural => simp [done, natural, eq_comm]
    next unnatural => simp [fail, unnatural]
  next other =>
    simp only [fail, Written.required_coordinate, reduceCtorEq, false_iff]
    rintro ⟨number, n, found, _⟩
    exact other number found

theorem result_reference {id : DeclId}
    : (reference place value).result = .ok id ↔ Written.required Written.text value id := by
  simp [reference, result_bind, result_string]

theorem result_word {meaning : String → Option α} {check : String → Check} {part : α}
    : (string place value >>= fun word => known place (meaning word) (check word)).result = .ok part
      ↔ Written.required (Written.word meaning) value part := by
  have known {word : String}
      : (known place (meaning word) (check word)).result = .ok part ↔ meaning word = some part := by
    unfold known
    split <;> simp_all [done, fail]
  simp [result_bind, result_string, known]

/-- A word that may be left out is read as its default then, which has a meaning, too. -/
theorem result_defaultedWord {meaning : String → Option α} {check : String → Check}
    {default : String} {usual part : α} (meant : meaning default = some usual)
    : (orDefault value default (string place)
          >>= fun word => known place (meaning word) (check word)).result = .ok part
      ↔ Written.defaulted (Written.word meaning) usual value part := by
  cases value with
  | none =>
      have left : (orDefault none default (string place)
          >>= fun word => known place (meaning word) (check word)) = pure usual := by
        show (pure default >>= _) = _
        simp only [pure_bind, known, meant]
        rfl
      rw [left, result_pure]
      simp [Written.defaulted, eq_comm]
  | some json =>
      show (string place (some json) >>= _).result = _ ↔ _
      rw [result_word]
      simp [Written.defaulted]

theorem result_orDefault {read : Option Json → Reading α} {written : α → Json → Prop}
    (reads : ∀ part, (read value).result = .ok part ↔ Written.required written value part)
    {default part : α}
    : (orDefault value default read).result = .ok part
      ↔ Written.defaulted written default value part := by
  cases value with
  | none => simp [orDefault, done, Written.defaulted, Written.required, eq_comm]
  | some json => simp [orDefault, Written.defaulted, reads]

theorem result_defaultedFlag {flag : Bool}
    : (orDefault value false (boolean place)).result = .ok flag
      ↔ Written.defaulted Written.flag false value flag :=
  result_orDefault fun _ => result_flag

theorem result_optional {read : Option Json → Reading α} {written : α → Json → Prop}
    (reads : ∀ part, (read value).result = .ok part ↔ Written.required written value part)
    (full : ∀ part, ¬written part .null) {part : Option α}
    : (Reading.optional value read).result = .ok part ↔ Written.optional written value part := by
  cases value with
  | none => cases part <;> simp [Reading.optional, done, Written.optional, Written.required]
  | some json =>
      by_cases empty : json = .null
      · subst empty
        cases part <;> simp [Reading.optional, done, Written.optional, Written.required, full]
      · have present : Reading.optional (some json) read
            = read (some json) >>= fun value => pure (some value) := by
          cases json <;> first | rfl | contradiction
        rw [present, result_bind]
        simp only [result_pure, reads]
        cases part <;> simp [Written.optional, empty]

theorem result_referencesFrom {index : Nat} {items : List Json} {ids : List DeclId}
    : (referencesFrom place index items).result = .ok ids ↔ items = ids.map .string := by
  induction items generalizing index ids with
  | nil => simp [referencesFrom, done, eq_comm]
  | cons item rest ih =>
      simp only [referencesFrom, result_bind, result_pure, result_reference, ih]
      cases ids <;> simp

theorem result_referenceList {ids : List DeclId}
    : (referenceList place value).result = .ok ids ↔ Written.required Written.ids value ids := by
  simp [referenceList, result_bind, result_array, result_referencesFrom]

-----------------------------------------------------------------------------------------
-- Locations, names and types
-----------------------------------------------------------------------------------------

theorem result_fileLocation {location : FileLocation}
    : (fileLocation mainFile place members).result = .ok location
      ↔ Written.fileLocation mainFile location members := by
  simp only [fileLocation, result_bind, result_pure, result_coordinate,
    result_orDefault fun _ => result_text, Written.fileLocation]
  constructor
  · rintro ⟨file, named, line, first, character, second, rfl⟩
    exact ⟨named, first, second⟩
  · rintro ⟨named, first, second⟩
    exact ⟨_, named, _, first, _, second, rfl⟩

theorem result_presentLocation {location : Location}
    : (presentLocation mainFile place value).result = .ok location
      ↔ Written.required (Written.location mainFile) value location := by
  rw [presentLocation, result_bind]
  simp only [result_object]
  constructor
  · rintro ⟨members, rfl, read⟩
    refine ⟨_, rfl, ?_⟩
    split at read
    next inMacro =>
      simp only [result_bind, result_pure, result_flag, result_object, result_fileLocation] at read
      obtain ⟨fromArgument, argument, parts, found, spelling, written, rfl⟩ := read
      exact ⟨inMacro, argument, parts, found, written⟩
    next inFile =>
      simp only [result_bind, result_pure, result_fileLocation] at read
      obtain ⟨location, written, rfl⟩ := read
      exact ⟨inFile, written⟩
  · rintro ⟨json, rfl, written⟩
    cases json with
    | object members =>
        refine ⟨members, rfl, ?_⟩
        cases location with
        | file location =>
            obtain ⟨inFile, written⟩ := written
            split
            next inMacro => exact absurd inMacro inFile
            next =>
              rw [result_bind]
              exact ⟨location, result_fileLocation.mpr written, result_pure.mpr rfl⟩
        | expansion fromArgument spelling =>
            obtain ⟨inMacro, argument, parts, found, written⟩ := written
            rw [inMacro]
            simp only [result_bind, result_pure, result_flag, result_object, result_fileLocation]
            exact ⟨fromArgument, argument, parts, found, spelling, written, rfl⟩
    | _ => cases location <;> contradiction

theorem result_location {key : String} {location : Option Location}
    : (Reading.location mainFile place members key).result = .ok location
      ↔ Written.optional (Written.location mainFile) (lookup key members) location :=
  result_optional (fun _ => result_presentLocation) fun location => by cases location <;> exact id

theorem result_name {name : DeclName}
    : (Reading.name place value).result = .ok name
      ↔ Written.required Written.name value name := by
  unfold Reading.name
  split
  next text => simp [done, Written.required, Written.name, eq_comm]
  next bare =>
    rw [result_bind]
    constructor
    · rintro ⟨members, isObject, read⟩
      rw [← bind_assoc, result_bind] at read
      obtain ⟨form, meant, read⟩ := read
      simp only [result_bind, result_pure, result_orDefault fun _ => result_text] at read
      obtain ⟨text, written, rfl⟩ := read
      exact ⟨_, result_object.mp isObject, result_word.mp meant, written⟩
    · rintro ⟨json, rfl, written⟩
      cases json with
      | object members =>
          obtain ⟨meant, written⟩ := written
          refine ⟨members, rfl, ?_⟩
          rw [← bind_assoc, result_bind]
          refine ⟨name.form, result_word.mpr meant, ?_⟩
          simp only [result_bind, result_pure, result_orDefault fun _ => result_text]
          exact ⟨name.text, written, rfl⟩
      | string text => exact absurd rfl (bare text)
      | _ => contradiction

theorem result_optionalReference {decl : Option DeclId}
    : (Reading.optional value (reference place)).result = .ok decl
      ↔ Written.optional Written.text value decl :=
  result_optional (fun _ => result_reference) nofun

/-- A type is read from its written form, by recursion on the size of that. -/
theorem result_type (place : Place) (json : Json) (part : TypeRef)
    : (type place json).result = .ok part ↔ Written.type part json := by
  cases json with
  | object members =>
      have below (underlying : Option TypeRef)
          : (Reading.underlying (place.member "underlying") members).result = .ok underlying
            ↔ Written.optional Written.type (lookup "underlying" members) underlying := by
        rw [underlying_eq]
        refine result_optional (fun part => ?_) fun part written => ?_
        · cases found : lookup "underlying" members with
          | none => simp [presentType, fail, Written.required]
          | some json =>
              have := sizeOf_lookup found
              simpa [presentType, Written.required] using result_type _ json part
        · obtain ⟨members, object⟩ := Written.object_of_type written
          contradiction
      rw [type, result_bind]
      simp only [result_string]
      constructor
      · rintro ⟨kind, found, read⟩
        split at read
        case h_1 =>
          simp only [result_bind, result_pure, result_orDefault fun _ => result_text] at read
          obtain ⟨name, written, rfl⟩ := read
          exact ⟨found, written⟩
        case h_2 =>
          simp only [result_bind, result_pure, result_optionalReference] at read
          obtain ⟨decl, written, rfl⟩ := read
          exact ⟨found, written⟩
        case h_3 =>
          simp only [result_bind, result_pure, result_reference] at read
          obtain ⟨decl, written, rfl⟩ := read
          exact ⟨found, written⟩
        case h_4 =>
          rw [← bind_assoc, result_bind] at read
          obtain ⟨sugar, meant, read⟩ := read
          simp only [result_bind, result_pure, below] at read
          obtain ⟨underlying, written, rfl⟩ := read
          exact Written.type_sugared.mpr ⟨found, result_word.mp meant, written⟩
        case h_5 =>
          obtain rfl := result_pure.mp read
          exact found
        case h_6 => contradiction
      · intro written
        cases part with
        | builtin name =>
            obtain ⟨found, written⟩ := written
            refine ⟨_, found, ?_⟩
            simp only [result_bind, result_pure, result_orDefault fun _ => result_text]
            exact ⟨name, written, rfl⟩
        | templateParameter decl =>
            obtain ⟨found, written⟩ := written
            refine ⟨_, found, ?_⟩
            simp only [result_bind, result_pure, result_optionalReference]
            exact ⟨decl, written, rfl⟩
        | tag decl =>
            obtain ⟨found, written⟩ := written
            refine ⟨_, found, ?_⟩
            simp only [result_bind, result_pure, result_reference]
            exact ⟨decl, written, rfl⟩
        | sugared sugar underlying =>
            obtain ⟨found, meant, written⟩ := Written.type_sugared.mp written
            refine ⟨_, found, ?_⟩
            show (_ >>= fun word => known _ (Sugar.ofWord? word) _ >>= _).result = _
            rw [← bind_assoc, result_bind]
            refine ⟨sugar, result_word.mpr meant, ?_⟩
            simp only [result_bind, result_pure, below]
            exact ⟨underlying, written, rfl⟩
        | other => exact ⟨_, written, result_pure.mpr rfl⟩
  | _ =>
      refine ⟨fun read => ?_, fun written => ?_⟩
      · contradiction
      · obtain ⟨members, object⟩ := Written.object_of_type written
        contradiction
termination_by sizeOf json

theorem result_presentType {part : TypeRef}
    : (presentType place value).result = .ok part ↔ Written.required Written.type value part := by
  cases value with
  | none => simp [presentType, fail, Written.required]
  | some json => simpa [presentType, Written.required] using result_type place json part

theorem result_optionalType {key : String} {part : Option TypeRef}
    : (optionalType place members key).result = .ok part
      ↔ Written.optional Written.type (lookup key members) part := by
  refine result_optional (fun _ => result_presentType) fun part written => ?_
  obtain ⟨members, object⟩ := Written.object_of_type written
  contradiction

-----------------------------------------------------------------------------------------
-- Declarations
-----------------------------------------------------------------------------------------

/-- What is declared is read by its word from what is written of it. -/
theorem result_entity {kind : String} {part : Entity}
    : (entity mainFile place members kind).result = .ok part
      ↔ kind = part.word ∧ Written.entity mainFile members part := by
  have shadows {part : List DeclId}
      : (orDefault (lookup "shadows" members) []
            (referenceList (place.member "shadows"))).result = .ok part
        ↔ Written.defaulted Written.ids [] (lookup "shadows" members) part :=
    result_orDefault fun _ => result_referenceList
  have storage {part : Storage}
      : (orDefault (lookup "storage" members) "global" (string (place.member "storage"))
            >>= fun word =>
              known (place.member "storage") (Storage.ofWord? word) (.storage word)).result
          = .ok part
        ↔ Written.defaulted (Written.word Storage.ofWord?) .global (lookup "storage" members)
            part :=
    result_defaultedWord rfl
  constructor
  · intro read
    unfold entity at read
    split at read
    case h_8 =>
      rw [← bind_assoc, result_bind] at read
      obtain ⟨part, written, made⟩ := read
      obtain rfl := result_pure.mp made
      exact ⟨rfl, storage.mp written⟩
    case h_22 => contradiction
    all_goals
      simp only [result_bind, result_pure, result_optionalReference, result_optionalType,
        result_location, result_defaultedFlag, shadows] at read
    case h_4 =>
      obtain ⟨targetName, located, aliased, written, rfl⟩ := read
      exact ⟨rfl, written, located⟩
    case h_1 | h_2 | h_3 | h_5 | h_6 | h_7 =>
      obtain ⟨part, written, rfl⟩ := read
      exact ⟨rfl, written⟩
    all_goals
      subst read
      exact ⟨rfl, trivial⟩
  · rintro ⟨rfl, written⟩
    cases part with
    | usingShadow decl | template decl =>
        exact result_bind.mpr ⟨decl, result_optionalReference.mpr written, rfl⟩
    | typedef underlying => exact result_bind.mpr ⟨underlying, result_optionalType.mpr written, rfl⟩
    | record mark | method mark => exact result_bind.mpr ⟨mark, result_defaultedFlag.mpr written, rfl⟩
    | usingList ids => exact result_bind.mpr ⟨ids, shadows.mpr written, rfl⟩
    | namespaceAlias aliased targetName =>
        obtain ⟨written, located⟩ := written
        refine result_bind.mpr ⟨targetName, result_location.mpr located, ?_⟩
        exact result_bind.mpr ⟨aliased, result_optionalReference.mpr written, rfl⟩
    | variableName part =>
        show (_ >>= fun word => known _ (Storage.ofWord? word) _ >>= _).result = _
        rw [← bind_assoc]
        exact result_bind.mpr ⟨part, storage.mpr written, rfl⟩
    | _ => rfl

/-- A declaration is read from its written form, wherever it was referred to. -/
theorem result_decl {id : DeclId} {json : Json} {part : Decl}
    : (decl mainFile id json).result = .ok part
      ↔ part.id = id ∧ Written.decl mainFile part json := by
  simp only [decl, result_bind, result_pure, result_object, result_name, result_location,
    result_string, result_entity]
  constructor
  · rintro ⟨members, ⟨⟩, name, named, location, located, _, found, entity, ⟨rfl, written⟩, rfl⟩
    exact ⟨rfl, named, located, found, written⟩
  · rintro ⟨rfl, written⟩
    cases json with
    | object members =>
        obtain ⟨named, located, found, written⟩ := written
        exact ⟨members, rfl, _, named, _, located, _, found, _, ⟨rfl, written⟩, rfl⟩
    | _ => contradiction

-----------------------------------------------------------------------------------------
-- Nodes
-----------------------------------------------------------------------------------------

/-- A node of a declaration is read from its written form, with its placeholder if it has one. -/
theorem written_declaration (location : Option Location) {part : Shape}
    (read : (shapeBy mainFile place members location "declaration").result = .ok part)
    : part.word = "declaration" ∧ Written.shape mainFile members part := by
  have read : (placeholderMembers place members >>= fun parts =>
      reference (place.member "decl") (lookup "decl" members) >>= fun id =>
      placeholder mainFile (place.member "placeholder") parts >>= fun stands =>
      pure (Shape.declaration id stands)).result = .ok part := read
  simp only [result_bind, result_pure, result_reference] at read
  obtain ⟨parts, there, id, declared, stands, shown, rfl⟩ := read
  refine ⟨rfl, declared, ?_⟩
  unfold placeholderMembers at there
  split at there
  next absent =>
    obtain rfl := result_pure.mp there
    obtain rfl := result_pure.mp shown
    exact absent
  next =>
    simp only [result_bind, result_pure, result_object] at there
    obtain ⟨parts, present, rfl⟩ := there
    simp only [placeholder, result_bind, result_pure, result_location, result_optionalType] at shown
    obtain ⟨location, located, deduced, written, rfl⟩ := shown
    exact ⟨parts, present, located, written⟩

/-- What a node is is read by its word from what is written of it. -/
theorem written_shapeBy {location : Option Location} {word : String} {part : Shape}
    (located : Written.optional (Written.location mainFile) (lookup "location" members) location)
    (read : (shapeBy mainFile place members location word).result = .ok part)
    : word = part.word ∧ Written.shape mainFile members part := by
  unfold shapeBy at read
  split at read
  case h_1 =>
    obtain ⟨word, written⟩ := written_declaration location read
    exact ⟨word.symm, written⟩
  case h_13 =>
    rw [← bind_assoc, result_bind] at read
    obtain ⟨qualifier, meant, made⟩ := read
    obtain rfl := result_pure.mp made
    exact ⟨rfl, located, result_word.mp meant⟩
  case h_15 => contradiction
  all_goals
    simp only [result_bind, result_pure, result_name, result_reference, result_referenceList,
      result_optionalReference, result_presentType, result_defaultedFlag] at read
  case h_2 | h_3 | h_4 | h_9 =>
    obtain ⟨first, written, second, others, rfl⟩ := read
    exact ⟨rfl, located, written, others⟩
  case h_5 | h_6 | h_7 | h_8 | h_10 | h_14 =>
    obtain ⟨first, written, rfl⟩ := read
    exact ⟨rfl, located, written⟩
  all_goals
    subst read
    exact ⟨rfl, located⟩

mutual
/-- A node is read from its written form, by recursion on the size of that. -/
theorem written_node (place : Place) (json : Json)
    : ∀ part, (node mainFile place json).result = .ok part → Written.node mainFile part json := by
  cases json with
  | object members =>
      intro part read
      rw [node, children_eq] at read
      simp only [shape, result_bind, result_pure, result_string, result_location] at read
      obtain ⟨children, listed, own, ⟨word, found, location, located, shown⟩, rfl⟩ := read
      obtain ⟨rfl, written⟩ := written_shapeBy located shown
      cases there : lookup "children" members with
      | none =>
          rw [there] at listed
          obtain rfl := result_pure.mp listed
          exact ⟨there, found, written⟩
      | some value =>
          have := sizeOf_lookup there
          rw [there] at listed
          obtain ⟨nodes, read, made⟩ := result_bind.mp listed
          obtain rfl := result_pure.mp made
          obtain ⟨items, rfl, each⟩ := written_nodes _ value nodes read
          exact ⟨⟨items, there, each⟩, found, written⟩
  | _ => exact nofun
termination_by sizeOf json

theorem written_nodes (place : Place) (json : Json)
    : ∀ parts,
        (nodes mainFile place json).result = .ok parts
        → ∃ items, json = .array items ∧ Written.nodes mainFile parts items := by
  cases json with
  | array items =>
      intro parts read
      rw [nodes] at read
      exact ⟨items, rfl, written_nodesFrom _ _ items parts read⟩
  | _ => exact nofun
termination_by sizeOf json

theorem written_nodesFrom (place : Place) (index : Nat) (items : List Json)
    : ∀ parts,
        (nodesFrom mainFile place index items).result = .ok parts
        → Written.nodes mainFile parts items := by
  cases items with
  | nil =>
      intro parts read
      rw [nodesFrom] at read
      obtain rfl := result_pure.mp read
      rfl
  | cons item rest =>
      intro parts read
      rw [nodesFrom] at read
      simp only [result_bind, result_pure] at read
      obtain ⟨first, here, others, later, rfl⟩ := read
      exact ⟨item, rest, rfl, written_node _ item first here,
        written_nodesFrom _ _ rest others later⟩
termination_by sizeOf items
end

end Reading

end Highlighter
