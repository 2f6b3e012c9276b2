import Highlighter.Tree.Reader

/-! How a tree is written in JSON: which values stand for a part of it. A part is written by itself,
with the ids of the declarations that it mentions in the place of those.
-/

namespace Highlighter

open Json (lookup)

-----------------------------------------------------------------------------------------
-- The declarations that a part mentions
-----------------------------------------------------------------------------------------

/-- The declarations that a type mentions. -/
def TypeRef.mentions : TypeRef → List DeclId
  | templateParameter decl => decl.toList
  | tag decl => [decl]
  | sugared _ (some underlying) => underlying.mentions
  | builtin _ | sugared _ none | other => []

/-- The declarations that what is declared mentions. -/
def Entity.mentions : Entity → List DeclId
  | usingShadow decl | template decl | namespaceAlias decl _ => decl.toList
  | typedef underlying => underlying.toList.flatMap TypeRef.mentions
  | usingList shadows => shadows
  | _ => []

/-- The declarations that a node mentions, without its children. -/
def Shape.mentions : Shape → List DeclId
  | declaration decl placeholder =>
      decl :: (placeholder.bind Placeholder.deduced).toList.flatMap TypeRef.mentions
  | declRef _ _ decl | memberAccess _ _ decl | typedefTypeRef _ decl => [decl]
  | overloadRef _ _ candidates => candidates
  | templateSpecializationRef _ decl | memberInitializer _ decl => decl.toList
  | tagTypeRef _ type _ | decltypeRef _ type => type.mentions
  | dependentDeclRef _ _ | dependentMemberAccess _ _ | dependentTypeRef _
  | templateParameterTypeRef _ | namespaceQualifier _ _ => []

-----------------------------------------------------------------------------------------
-- Words
-----------------------------------------------------------------------------------------

/-- The word for what is declared. -/
def Entity.word : Entity → String
  | usingShadow _ => "UsingShadow"
  | template _ => "Template"
  | typedef _ => "Typedef"
  | record _ => "Record"
  | constructor => "Constructor"
  | method _ => "Method"
  | field => "Field"
  | enumType => "Enum"
  | enumConstant => "EnumConstant"
  | parameter => "Parameter"
  | variableName _ => "Variable"
  | binding => "Binding"
  | function => "Function"
  | namespaceName => "Namespace"
  | namespaceAlias _ _ => "NamespaceAlias"
  | usingDirective => "UsingDirective"
  | usingList _ => "Using"
  | typeParameter => "TemplateTypeParameter"
  | valueParameter => "NonTypeTemplateParameter"
  | templateParameter => "TemplateTemplateParameter"
  | other => "Other"

/-- The word for what a node is. -/
def Shape.word : Shape → String
  | declaration _ _ => "declaration"
  | declRef _ _ _ => "declRef"
  | memberAccess _ _ _ => "memberAccess"
  | overloadRef _ _ _ => "overloadRef"
  | dependentDeclRef _ _ => "dependentDeclRef"
  | dependentMemberAccess _ _ => "dependentMemberAccess"
  | typedefTypeRef _ _ => "typedefTypeRef"
  | templateSpecializationRef _ _ => "templateSpecializationRef"
  | tagTypeRef _ _ _ => "tagTypeRef"
  | decltypeRef _ _ => "decltypeRef"
  | dependentTypeRef _ => "dependentTypeRef"
  | templateParameterTypeRef _ => "templateParameterTypeRef"
  | namespaceQualifier _ _ => "namespaceQualifier"
  | memberInitializer _ _ => "memberInitializer"

-----------------------------------------------------------------------------------------
-- Parts and the values that stand for them
-----------------------------------------------------------------------------------------

namespace Written

variable {α : Type}

/-- A part that must be there. -/
def required (written : α → Json → Prop) (value : Option Json) (part : α) : Prop :=
  ∃ json, value = some json ∧ written part json

/-- A part that may be left out, with the default that it then is. -/
def defaulted (written : α → Json → Prop) (default : α) (value : Option Json) (part : α) : Prop :=
  (value = none ∧ part = default) ∨ required written value part

/-- A part that may be left out or be null, and then is none. -/
def optional (written : α → Json → Prop) (value : Option Json) : Option α → Prop
  | none => value = none ∨ value = some .null
  | some part => required written value part

def text (text : String) (json : Json) : Prop := json = .string text

def flag (flag : Bool) (json : Json) : Prop := json = .bool flag

def coordinate (coordinate : Int) (json : Json) : Prop :=
  ∃ number n, json = .number number ∧ number.toNat? = some n ∧ coordinate = n

/-- What a word means. -/
def word (meaning : String → Option α) (part : α) (json : Json) : Prop :=
  ∃ word, json = .string word ∧ meaning word = some part

/-- Ids, one after another. -/
def ids (ids : List DeclId) (json : Json) : Prop := json = .array (ids.map .string)

section

variable {value : Option Json}

@[simp]
theorem required_text {part : String} : required text value part ↔ value = some (.string part) := by
  simp [required, text]

@[simp]
theorem required_flag {part : Bool} : required flag value part ↔ value = some (.bool part) := by
  simp [required, flag]

@[simp]
theorem required_coordinate {part : Int}
    : required coordinate value part
      ↔ ∃ number n, value = some (.number number) ∧ number.toNat? = some n ∧ part = n := by
  constructor
  · rintro ⟨json, found, number, n, rfl, natural⟩
    exact ⟨number, n, found, natural⟩
  · rintro ⟨number, n, found, natural⟩
    exact ⟨_, found, number, n, rfl, natural⟩

@[simp]
theorem required_word {meaning : String → Option α} {part : α}
    : required (word meaning) value part
      ↔ ∃ text, value = some (.string text) ∧ meaning text = some part := by
  constructor
  · rintro ⟨json, found, text, rfl, meant⟩
    exact ⟨text, found, meant⟩
  · rintro ⟨text, found, meant⟩
    exact ⟨_, found, text, rfl, meant⟩

@[simp]
theorem required_ids {part : List DeclId}
    : required ids value part ↔ value = some (.array (part.map .string)) := by
  simp [required, ids]

end

/-- A name, in full or as a bare text. -/
def name (name : DeclName) : Json → Prop
  | .string text => name = ⟨.identifier, text⟩
  | .object members =>
      required (word NameForm.ofWord?) (lookup "kind" members) name.form
      ∧ defaulted text "" (lookup "text" members) name.text
  | _ => False

section

variable (mainFile : String)

/-- A position and the file that it is in. -/
def fileLocation (location : FileLocation) (members : Members) : Prop :=
  defaulted text mainFile (lookup "file" members) location.file
  ∧ required coordinate (lookup "line" members) location.position.line
  ∧ required coordinate (lookup "character" members) location.position.character

/-- A location, in a macro if its kind says so. -/
def location : Location → Json → Prop
  | .file location, .object members =>
      lookup "kind" members ≠ some (.string "macro") ∧ fileLocation mainFile location members
  | .expansion fromArgument spelling, .object members =>
      lookup "kind" members = some (.string "macro")
      ∧ required flag (lookup "argument" members) fromArgument
      ∧ ∃ parts,
          lookup "spelling" members = some (.object parts)
          ∧ fileLocation mainFile spelling parts
  | _, _ => False

end

/-- A type. -/
def type : TypeRef → Json → Prop
  | .builtin name, .object members =>
      lookup "kind" members = some (.string "Builtin")
      ∧ defaulted text "" (lookup "name" members) name
  | .templateParameter decl, .object members =>
      lookup "kind" members = some (.string "TemplateTypeParm")
      ∧ optional text (lookup "decl" members) decl
  | .tag decl, .object members =>
      lookup "kind" members = some (.string "Tag") ∧ required text (lookup "decl" members) decl
  | .sugared sugar none, .object members =>
      lookup "kind" members = some (.string "Sugared")
      ∧ required (word Sugar.ofWord?) (lookup "sugar" members) sugar
      ∧ (lookup "underlying" members = none ∨ lookup "underlying" members = some .null)
  | .sugared sugar (some underlying), .object members =>
      lookup "kind" members = some (.string "Sugared")
      ∧ required (word Sugar.ofWord?) (lookup "sugar" members) sugar
      ∧ ∃ json, lookup "underlying" members = some json ∧ type underlying json
  | .other, .object members => lookup "kind" members = some (.string "Other")
  | _, _ => False

theorem type_sugared {sugar : Sugar} {underlying : Option TypeRef} {members : Members}
    : type (.sugared sugar underlying) (.object members)
      ↔ lookup "kind" members = some (.string "Sugared")
        ∧ required (word Sugar.ofWord?) (lookup "sugar" members) sugar
        ∧ optional type (lookup "underlying" members) underlying := by
  cases underlying <;> rfl

/-- Only objects stand for types. -/
theorem object_of_type {part : TypeRef} {json : Json} (written : type part json)
    : ∃ members, json = .object members := by
  cases json with
  | object members => exact ⟨members, rfl⟩
  | _ =>
      cases part with
      | sugared sugar underlying => cases underlying <;> contradiction
      | _ => contradiction

section

variable (mainFile : String) (members : Members)

/-- What a declaration says besides its name and its location. -/
def entity : Entity → Prop
  | .usingShadow target => optional text (lookup "target" members) target
  | .template templated => optional text (lookup "templated" members) templated
  | .typedef underlying => optional type (lookup "underlying" members) underlying
  | .namespaceAlias aliased targetName =>
      optional text (lookup "aliased" members) aliased
      ∧ optional (location mainFile) (lookup "targetNameLocation" members) targetName
  | .usingList shadows => defaulted ids [] (lookup "shadows" members) shadows
  | .record isLambda => defaulted flag false (lookup "isLambda" members) isLambda
  | .method isStatic => defaulted flag false (lookup "isStatic" members) isStatic
  | .variableName storage =>
      defaulted (word Storage.ofWord?) .global (lookup "storage" members) storage
  | _ => True

/-- What a node says besides its word and its children. -/
def shape : Shape → Prop
  | .declaration decl stands =>
      required text (lookup "decl" members) decl
      ∧ match stands with
        | none => lookup "placeholder" members = none
        | some ⟨place, deduced⟩ =>
            ∃ parts,
              lookup "placeholder" members = some (.object parts)
              ∧ optional (location mainFile) (lookup "location" parts) place
              ∧ optional type (lookup "deduced" parts) deduced
  | .declRef place mentioned decl | .memberAccess place mentioned decl =>
      optional (location mainFile) (lookup "location" members) place
      ∧ required name (lookup "name" members) mentioned
      ∧ required text (lookup "decl" members) decl
  | .overloadRef place mentioned candidates =>
      optional (location mainFile) (lookup "location" members) place
      ∧ required name (lookup "name" members) mentioned
      ∧ required ids (lookup "candidates" members) candidates
  | .dependentDeclRef place mentioned | .dependentMemberAccess place mentioned =>
      optional (location mainFile) (lookup "location" members) place
      ∧ required name (lookup "name" members) mentioned
  | .typedefTypeRef place decl =>
      optional (location mainFile) (lookup "location" members) place
      ∧ required text (lookup "decl" members) decl
  | .templateSpecializationRef place template =>
      optional (location mainFile) (lookup "location" members) place
      ∧ optional text (lookup "template" members) template
  | .memberInitializer place member =>
      optional (location mainFile) (lookup "location" members) place
      ∧ optional text (lookup "member" members) member
  | .tagTypeRef place named isDefinition =>
      optional (location mainFile) (lookup "location" members) place
      ∧ required type (lookup "type" members) named
      ∧ defaulted flag false (lookup "isDefinition" members) isDefinition
  | .decltypeRef place named =>
      optional (location mainFile) (lookup "location" members) place
      ∧ required type (lookup "type" members) named
  | .dependentTypeRef place | .templateParameterTypeRef place =>
      optional (location mainFile) (lookup "location" members) place
  | .namespaceQualifier place qualifier =>
      optional (location mainFile) (lookup "location" members) place
      ∧ required (word Qualifier.ofWord?) (lookup "specifier" members) qualifier

end

section

variable (mainFile : String)

/-- A declaration; its id is not part of it. -/
def decl (decl : Decl) : Json → Prop
  | .object members =>
      required name (lookup "name" members) decl.name
      ∧ optional (location mainFile) (lookup "location" members) decl.location
      ∧ lookup "kind" members = some (.string decl.entity.word)
      ∧ entity mainFile members decl.entity
  | _ => False

mutual
/-- A node with its children. -/
def node : Node → Json → Prop
  | .mk own none, .object members =>
      lookup "children" members = none
      ∧ lookup "shape" members = some (.string own.word)
      ∧ shape mainFile members own
  | .mk own (some children), .object members =>
      (∃ items, lookup "children" members = some (.array items) ∧ nodes children items)
      ∧ lookup "shape" members = some (.string own.word)
      ∧ shape mainFile members own
  | _, _ => False

/-- Nodes, one after another. -/
def nodes : List Node → List Json → Prop
  | [], items => items = []
  | first :: rest, items =>
      ∃ item others, items = item :: others ∧ node first item ∧ nodes rest others
end

end

end Written

end Highlighter
