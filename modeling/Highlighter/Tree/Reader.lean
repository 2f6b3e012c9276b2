import Highlighter.Tree
import Highlighter.Tree.Reading

/-! Reading a resolved tree from its JSON form. Declarations are listed once, by id, and everything
else refers to them, so the nodes are read first and then the declarations that they reach, each
one once, depth first in the order of the references. Misfits are found in that order too, and the
first one is reported. Declarations that nothing reaches are not looked at.
-/

namespace Highlighter

open Json (lookup)

/-- The name form of that word. -/
def NameForm.ofWord? : String → Option NameForm
  | "identifier" => some .identifier
  | "constructor" => some .constructor
  | "destructor" => some .destructor
  | "conversion" => some .conversion
  | "operator" => some .operator
  | "usingDirective" => some .usingDirective
  | "deductionGuide" => some .deductionGuide
  | _ => none

/-- The storage of that word. -/
def Storage.ofWord? : String → Option Storage
  | "staticMember" => some .staticMember
  | "local" => some .local
  | "global" => some .global
  | _ => none

/-- The sugar of that word. -/
def Sugar.ofWord? : String → Option Sugar
  | "typedef" => some .typedef
  | "elaborated" => some .elaborated
  | "decltype" => some .decltype
  | "auto" => some .auto
  | "paren" => some .paren
  | _ => none

/-- The qualifier of that word. -/
def Qualifier.ofWord? : String → Option Qualifier
  | "namespace" => some .namespaceName
  | "namespaceAlias" => some .namespaceAlias
  | "type" => some .type
  | "identifier" => some .identifier
  | "global" => some .global
  | "super" => some .super
  | _ => none

/-- The members of a JSON object. -/
abbrev Members := List (String × Json)

namespace Reading

/-- The meaning of a word, or the check that it fails. -/
def known {α : Type} (place : Place) (meaning : Option α) (check : Check) : Reading α :=
  match meaning with
  | some value => done value
  | none => fail place check

/-- A position in the file that the members name, which is the main file if they name none. -/
def fileLocation (mainFile : String) (place : Place) (members : Members)
    : Reading FileLocation := do
  let file ← orDefault (lookup "file" members) mainFile (string (place.member "file"))
  let line ← coordinate (place.member "line") (lookup "line" members)
  let character ← coordinate (place.member "character") (lookup "character" members)
  return ⟨file, ⟨line, character⟩⟩

/-- A location that must be there. -/
def presentLocation (mainFile : String) (place : Place) (value : Option Json)
    : Reading Location := do
  let members ← object place value
  match lookup "kind" members with
  | some (.string "macro") =>
      let fromArgument ← boolean (place.member "argument") (lookup "argument" members)
      let spelling ← object (place.member "spelling") (lookup "spelling" members)
      return .expansion fromArgument
        (← fileLocation mainFile (place.member "spelling") spelling)
  | _ => return .file (← fileLocation mainFile place members)

/-- The location of that name, if there is one. -/
def location (mainFile : String) (place : Place) (members : Members) (key : String)
    : Reading (Option Location) :=
  optional (lookup key members) (presentLocation mainFile (place.member key))

/-- A name; a bare text is an identifier. -/
def name (place : Place) : Option Json → Reading DeclName
  | some (.string text) => done ⟨.identifier, text⟩
  | value => do
      let members ← object place value
      let form ← string (place.member "kind") (lookup "kind" members)
      let form ← known (place.member "kind") (NameForm.ofWord? form) (.nameKind form)
      let text ← orDefault (lookup "text" members) "" (string (place.member "text"))
      return ⟨form, text⟩

mutual
/-- A type. -/
def type (place : Place) : Json → Reading TypeRef
  | .object members => do
      let kind ← string (place.member "kind") (lookup "kind" members)
      match kind with
      | "Builtin" =>
          return .builtin
            (← orDefault (lookup "name" members) "" (string (place.member "name")))
      | "TemplateTypeParm" =>
          return .templateParameter
            (← optional (lookup "decl" members) (reference (place.member "decl")))
      | "Tag" => return .tag (← reference (place.member "decl") (lookup "decl" members))
      | "Sugared" =>
          let sugar ← string (place.member "sugar") (lookup "sugar" members)
          let sugar ← known (place.member "sugar") (Sugar.ofWord? sugar) (.sugar sugar)
          return .sugared sugar (← underlying (place.member "underlying") members)
      | "Other" => return .other
      | kind => fail (place.member "kind") (.typeKind kind)
  | _ => fail place .object

/-- The type that the members call underlying, if there is one. -/
def underlying (place : Place) : Members → Reading (Option TypeRef)
  | [] => return none
  | (key, value) :: rest =>
      if key = "underlying" then
        match value with
        | .null => return none
        | present => do return some (← type place present)
      else underlying place rest
end

/-- A type that must be there. -/
def presentType (place : Place) : Option Json → Reading TypeRef
  | some value => type place value
  | none => fail place .object

/-- The type of that name, if there is one. -/
def optionalType (place : Place) (members : Members) (key : String)
    : Reading (Option TypeRef) :=
  optional (lookup key members) (presentType (place.member key))

/-- What is declared, by the word for its kind. -/
def entity (mainFile : String) (place : Place) (members : Members) (kind : String)
    : Reading Entity :=
  let referred (key : String) : Reading (Option DeclId) :=
    optional (lookup key members) (reference (place.member key))
  let flag (key : String) : Reading Bool :=
    orDefault (lookup key members) false (boolean (place.member key))
  match kind with
  | "UsingShadow" => do return .usingShadow (← referred "target")
  | "Template" => do return .template (← referred "templated")
  | "Typedef" => do return .typedef (← optionalType place members "underlying")
  | "NamespaceAlias" => do
      let targetName ← location mainFile place members "targetNameLocation"
      return .namespaceAlias (← referred "aliased") targetName
  | "Using" => do
      return .usingList
        (← orDefault (lookup "shadows" members) [] (referenceList (place.member "shadows")))
  | "Record" => do return .record (← flag "isLambda")
  | "Method" => do return .method (← flag "isStatic")
  | "Variable" => do
      let storage ←
        orDefault (lookup "storage" members) "global" (string (place.member "storage"))
      return .variableName
        (← known (place.member "storage") (Storage.ofWord? storage) (.storage storage))
  | "Constructor" => return .constructor
  | "Field" => return .field
  | "Enum" => return .enumType
  | "EnumConstant" => return .enumConstant
  | "Parameter" => return .parameter
  | "Binding" => return .binding
  | "Function" => return .function
  | "Namespace" => return .namespaceName
  | "UsingDirective" => return .usingDirective
  | "TemplateTypeParameter" => return .typeParameter
  | "NonTypeTemplateParameter" => return .valueParameter
  | "TemplateTemplateParameter" => return .templateParameter
  | "Other" => return .other
  | kind => fail (place.member "kind") (.declKind kind)

/-- The place of the declaration of that id. -/
def declPlace (id : DeclId) : Place := (Place.root.member "decls").member id

/-- The declaration of that id. -/
def decl (mainFile : String) (id : DeclId) (value : Json) : Reading Decl := do
  let place := declPlace id
  let members ← object place (some value)
  let name ← name (place.member "name") (lookup "name" members)
  let location ← location mainFile place members "location"
  let kind ← string (place.member "kind") (lookup "kind" members)
  return ⟨id, name, location, ← entity mainFile place members kind⟩

/-- The placeholder of that name, if there is one, its parts still to be read. -/
def placeholderMembers (place : Place) (members : Members) : Reading (Option Members) :=
  match lookup "placeholder" members with
  | none => return none
  | present => do return some (← object (place.member "placeholder") present)

/-- The parts of a placeholder. -/
def placeholder (mainFile : String) (place : Place) : Option Members
    → Reading (Option Placeholder)
  | none => return none
  | some members => do
      let location ← location mainFile place members "location"
      return some ⟨location, ← optionalType place members "deduced"⟩

/-- What a node is, by the word for its shape. -/
def shapeBy (mainFile : String) (place : Place) (members : Members)
    (location : Option Location) (shape : String) : Reading Shape :=
  let declared : Reading DeclId := reference (place.member "decl") (lookup "decl" members)
  let referred (key : String) : Reading (Option DeclId) :=
    optional (lookup key members) (reference (place.member key))
  let named : Reading DeclName := name (place.member "name") (lookup "name" members)
  let typed : Reading TypeRef := presentType (place.member "type") (lookup "type" members)
  match shape with
  | "declaration" => do
      let parts ← placeholderMembers place members
      let id ← declared
      return .declaration id (← placeholder mainFile (place.member "placeholder") parts)
  | "declRef" => do return .declRef location (← named) (← declared)
  | "memberAccess" => do return .memberAccess location (← named) (← declared)
  | "overloadRef" => do
      let name ← named
      return .overloadRef location name
        (← referenceList (place.member "candidates") (lookup "candidates" members))
  | "dependentDeclRef" => do return .dependentDeclRef location (← named)
  | "dependentMemberAccess" => do return .dependentMemberAccess location (← named)
  | "typedefTypeRef" => do return .typedefTypeRef location (← declared)
  | "templateSpecializationRef" => do
      return .templateSpecializationRef location (← referred "template")
  | "tagTypeRef" => do
      let type ← typed
      return .tagTypeRef location type
        (← orDefault (lookup "isDefinition" members) false
          (boolean (place.member "isDefinition")))
  | "decltypeRef" => do return .decltypeRef location (← typed)
  | "dependentTypeRef" => return .dependentTypeRef location
  | "templateParameterTypeRef" => return .templateParameterTypeRef location
  | "namespaceQualifier" => do
      let word ← string (place.member "specifier") (lookup "specifier" members)
      return .namespaceQualifier location
        (← known (place.member "specifier") (Qualifier.ofWord? word) (.qualifier word))
  | "memberInitializer" => do return .memberInitializer location (← referred "member")
  | shape => fail (place.member "shape") (.shape shape)

/-- What a node is, without its children. -/
def shape (mainFile : String) (place : Place) (members : Members) : Reading Shape := do
  let shape ← string (place.member "shape") (lookup "shape" members)
  let location ← location mainFile place members "location"
  shapeBy mainFile place members location shape

mutual
/-- A node, its children before the rest of it. -/
def node (mainFile : String) (place : Place) : Json → Reading Node
  | .object members => do
      let children ← children mainFile (place.member "children") members
      return .mk (← shape mainFile place members) children
  | _ => fail place .object

/-- The children that the members list, if they do. -/
def children (mainFile : String) (place : Place) : Members → Reading (Option (List Node))
  | [] => return none
  | (key, value) :: rest =>
      if key = "children" then do return some (← nodes mainFile place value)
      else children mainFile place rest

/-- The nodes of an array. -/
def nodes (mainFile : String) (place : Place) : Json → Reading (List Node)
  | .array items => nodesFrom mainFile place 0 items
  | _ => fail place .array

/-- The nodes of the items of an array, the first of which has that index. -/
def nodesFrom (mainFile : String) (place : Place) (index : Nat)
    : List Json → Reading (List Node)
  | [] => return []
  | item :: rest => do
      let first ← node mainFile (place.item index) item
      let others ← nodesFrom mainFile place (index + 1) rest
      return first :: others
end

/-- A range. -/
def range (place : Place) (value : Json) : Reading Range := do
  let members ← object place (some value)
  let start ← object (place.member "start") (lookup "start" members)
  let stop ← object (place.member "end") (lookup "end" members)
  let startPlace := place.member "start"
  let stopPlace := place.member "end"
  let startLine ← coordinate (startPlace.member "line") (lookup "line" start)
  let startCharacter ← coordinate (startPlace.member "character") (lookup "character" start)
  let stopLine ← coordinate (stopPlace.member "line") (lookup "line" stop)
  let stopCharacter ← coordinate (stopPlace.member "character") (lookup "character" stop)
  return .between startLine startCharacter stopLine stopCharacter

/-- The ranges of the items of an array, the first of which has that index. -/
def rangesFrom (place : Place) (index : Nat) : List Json → Reading (List Range)
  | [] => return []
  | item :: rest => do
      let first ← range (place.item index) item
      let others ← rangesFrom place (index + 1) rest
      return first :: others

/-- The ranges of the array at a place. -/
def ranges (place : Place) (value : Option Json) : Reading (List Range) := do
  rangesFrom place 0 (← array place value)

/-- The nodes at a place, which must be there. -/
def presentNodes (mainFile : String) (place : Place) : Option Json → Reading (List Node)
  | some value => nodes mainFile place value
  | none => fail place .array

end Reading

/-- What a tree says before its nodes. -/
structure Heading where
  mainFile : String
  text : String
  decls : Members
  members : Members

namespace Heading

/-- Reads what a tree says before its nodes. -/
def read (json : Json) : Reading Heading := do
  let root := Place.root
  let members ← Reading.object root (some json)
  let mainFile ← Reading.string (root.member "mainFile") (lookup "mainFile" members)
  let text ← Reading.string (root.member "text") (lookup "text" members)
  let decls ←
    Reading.orDefault (lookup "decls" members) [] (Reading.object (root.member "decls"))
  return ⟨mainFile, text, decls, members⟩

/-- Reads the nodes and then the macro ranges. -/
def body (heading : Heading) : Reading (List Node × List Range) := do
  let root := Place.root
  let nodes ← Reading.presentNodes heading.mainFile (root.member "nodes")
    (lookup "nodes" heading.members)
  let macros ← Reading.orDefault (lookup "macros" heading.members) []
    (Reading.ranges (root.member "macros"))
  return (nodes, macros)

end Heading

/-- What is still to be done when references are followed, in its order. -/
inductive Errand where
  | follow (reference : Reference)
  | report (misfit : Misfit)

/-- The errands of a reading: its references, and then its misfit, if it has one. -/
def Reading.errands {α : Type} (reading : Reading α) : List Errand :=
  reading.references.map .follow
    ++ (match reading.result with
      | .ok _ => []
      | .error misfit => [.report misfit])

namespace Errand

/-- The declarations whose reading has begun, each with what its reading led to. -/
abbrev Begun := List (DeclId × Except Misfit Decl)

/-- The reading of that declaration has begun. -/
def hasBegun (begun : Begun) (id : DeclId) : Bool :=
  begun.any fun entry => entry.1 = id

/-- The members whose reading has not begun. -/
def untouched (decls : Members) (begun : Begun) : Members :=
  decls.filter fun member => !hasBegun begun member.1

/-- A member that is found is one of the members. -/
theorem mem_of_lookup {id : DeclId} {value : Json} {decls : Members}
    (h : lookup id decls = some value)
    : ∃ member ∈ decls, member.1 = id := by
  induction decls with
  | nil => simp [lookup] at h
  | cons member rest ih =>
      by_cases same : member.1 = id
      · exact ⟨member, List.mem_cons_self, same⟩
      · obtain ⟨found, mem, eq⟩ := ih (by simpa [lookup, same] using h)
        exact ⟨found, List.mem_cons_of_mem _ mem, eq⟩

/-- Beginning with a member that was untouched leaves fewer of them. -/
theorem length_untouched_lt {id : DeclId} {value : Json} {decls : Members} {begun : Begun}
    (fresh : hasBegun begun id = false) (h : lookup id decls = some value)
    (result : Except Misfit Decl)
    : (untouched decls ((id, result) :: begun)).length < (untouched decls begun).length := by
  obtain ⟨member, mem, eq⟩ := mem_of_lookup h
  have narrower : untouched decls ((id, result) :: begun)
      = (untouched decls begun).filter fun member => !(decide (id = member.1)) := by
    simp only [untouched, List.filter_filter]
    congr 1
    funext other
    simp [hasBegun]
  rw [narrower]
  refine List.length_filter_lt_length_iff_exists.mpr ⟨member, ?_, by simp [eq]⟩
  exact List.mem_filter.mpr ⟨mem, by simp [eq, fresh]⟩

/-- Does errands in their order. A reference to a declaration that nothing has referred to before
brings the errands of its reading, which come first.
-/
def run (mainFile : String) (decls : Members) (begun : Begun)
    : List Errand → Except Misfit Begun
  | [] => .ok begun
  | .report misfit :: _ => .error misfit
  | .follow reference :: rest =>
      match _fresh : hasBegun begun reference.id with
      | true => run mainFile decls begun rest
      | false =>
          match _found : lookup reference.id decls with
          | none => .error ⟨reference.place, .knownDecl reference.id⟩
          | some value =>
              let reading := Reading.decl mainFile reference.id value
              run mainFile decls ((reference.id, reading.result) :: begun)
                (reading.errands ++ rest)
termination_by errands => ((untouched decls begun).length, errands.length)
decreasing_by
  · exact Prod.Lex.right _ (Nat.lt_succ_self _)
  · exact Prod.Lex.left _ _ (length_untouched_lt _fresh _found _)

end Errand

namespace Tree

/-- The tree that a JSON value describes, or the first misfit. -/
def read (json : Json) : Except Misfit Tree := do
  let heading ← (Heading.read json).result
  let body := heading.body
  let begun ← Errand.run heading.mainFile heading.decls [] body.errands
  let (nodes, macros) ← body.result
  return {
    source := .ofText heading.mainFile heading.text,
    nodes,
    macros,
    decls := ⟨begun.filterMap fun entry => entry.2.toOption⟩
  }

end Tree

end Highlighter
