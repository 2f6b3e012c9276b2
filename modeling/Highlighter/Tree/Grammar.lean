import Highlighter.Decl
import Highlighter.Json

/-! The JSON form of a resolved tree, as a grammar: which objects there are, which members each of
them has and in which form, and which values refer to declarations. How a tree is read, and what is
reported of a value that is none, is another matter.
-/

namespace Highlighter

open Json (lookup)

namespace Grammar

/-- What an object describes. -/
inductive Record where
  | name
  | position
  | filePosition
  | location
  | type
  | declaration
  | placeholder
  | node
  | range
  | table
  | tree

/-- The form of a value. -/
inductive Form where
  | text
  | flag
  | coordinate
  | word (words : List String)
  | reference
  /-- A name is an object, or a bare text. -/
  | name
  | array (item : Form)
  | record (record : Record)

/-- Whether a member may be left out; what is nullable may be left out and may be null. -/
inductive Need where
  | required
  | defaulted
  | nullable

/-- A member of an object. -/
structure Field where
  key : String
  need : Need
  form : Form

/-- The value that members give to a field; a null is none where it may stand. -/
def Field.value? (field : Field) (members : List (String × Json)) : Option Json :=
  match field.need, lookup field.key members with
  | .nullable, some .null => none
  | _, value => value

def required (key : String) (form : Form) : Field := ⟨key, .required, form⟩

def defaulted (key : String) (form : Form) : Field := ⟨key, .defaulted, form⟩

def nullable (key : String) (form : Form) : Field := ⟨key, .nullable, form⟩

-----------------------------------------------------------------------------------------
-- The tables of words and fields
-----------------------------------------------------------------------------------------

/-- Words, each with the fields that an object has that is called by it. -/
abbrev Variants := List (String × List Field)

def nameForms : List String :=
  ["identifier", "constructor", "destructor", "conversion", "operator", "usingDirective",
    "deductionGuide"]

def storages : List String := ["staticMember", "local", "global"]

def sugars : List String := ["typedef", "elaborated", "decltype", "auto", "paren"]

def qualifiers : List String :=
  ["namespace", "namespaceAlias", "type", "identifier", "global", "super"]

/-- The kinds of types. -/
def types : Variants := [
  ("Builtin", [defaulted "name" .text]),
  ("TemplateTypeParm", [nullable "decl" .reference]),
  ("Tag", [required "decl" .reference]),
  ("Sugared", [required "sugar" (.word sugars), nullable "underlying" (.record .type)]),
  ("Other", [])]

/-- The kinds of declarations. -/
def declarations : Variants := [
  ("UsingShadow", [nullable "target" .reference]),
  ("Template", [nullable "templated" .reference]),
  ("Typedef", [nullable "underlying" (.record .type)]),
  ("NamespaceAlias",
    [nullable "targetNameLocation" (.record .location), nullable "aliased" .reference]),
  ("Using", [defaulted "shadows" (.array .reference)]),
  ("Record", [defaulted "isLambda" .flag]),
  ("Method", [defaulted "isStatic" .flag]),
  ("Variable", [defaulted "storage" (.word storages)]),
  ("Constructor", []),
  ("Field", []),
  ("Enum", []),
  ("EnumConstant", []),
  ("Parameter", []),
  ("Binding", []),
  ("Function", []),
  ("Namespace", []),
  ("UsingDirective", []),
  ("TemplateTypeParameter", []),
  ("NonTypeTemplateParameter", []),
  ("TemplateTemplateParameter", []),
  ("Other", [])]

/-- The shapes of nodes. -/
def shapes : Variants := [
  ("declaration", [required "decl" .reference, defaulted "placeholder" (.record .placeholder)]),
  ("declRef", [required "name" .name, required "decl" .reference]),
  ("memberAccess", [required "name" .name, required "decl" .reference]),
  ("overloadRef", [required "name" .name, required "candidates" (.array .reference)]),
  ("dependentDeclRef", [required "name" .name]),
  ("dependentMemberAccess", [required "name" .name]),
  ("typedefTypeRef", [required "decl" .reference]),
  ("templateSpecializationRef", [nullable "template" .reference]),
  ("tagTypeRef", [required "type" (.record .type), defaulted "isDefinition" .flag]),
  ("decltypeRef", [required "type" (.record .type)]),
  ("dependentTypeRef", []),
  ("templateParameterTypeRef", []),
  ("namespaceQualifier", [required "specifier" (.word qualifiers)]),
  ("memberInitializer", [nullable "member" .reference])]

/-- The member that says which of the variants an object is. -/
def choice (variants : Variants) (key : String) : Field :=
  required key (.word (variants.map (·.1)))

/-- The fields of an object that is one of the variants, by the word in the member of that name. -/
def oneOf (variants : Variants) (key : String) (members : List (String × Json)) : List Field :=
  choice variants key ::
    match lookup key members with
    | some (.string word) => (variants.lookup word).getD []
    | _ => []

def positionFields : List Field :=
  [required "line" .coordinate, required "character" .coordinate]

/-- A position names its file if it is in another than the main file. -/
def filePositionFields : List Field := defaulted "file" .text :: positionFields

/-- A location is in a macro if its kind says so, and whatever else its kind is, in a file. -/
def locationFields (members : List (String × Json)) : List Field :=
  match lookup "kind" members with
  | some (.string "macro") =>
      [required "argument" .flag, required "spelling" (.record .filePosition)]
  | _ => filePositionFields

/-- The fields of an object, which may depend on what its members say. -/
def Record.fields (members : List (String × Json)) : Record → List Field
  | .name => [required "kind" (.word nameForms), defaulted "text" .text]
  | .position => positionFields
  | .filePosition => filePositionFields
  | .location => locationFields members
  | .type => oneOf types "kind" members
  | .declaration =>
      required "name" .name :: nullable "location" (.record .location)
        :: oneOf declarations "kind" members
  | .placeholder => [nullable "location" (.record .location), nullable "deduced" (.record .type)]
  | .node =>
      defaulted "children" (.array (.record .node)) :: nullable "location" (.record .location)
        :: oneOf shapes "shape" members
  | .range => [required "start" (.record .position), required "end" (.record .position)]
  | .table => []
  | .tree => [
      required "mainFile" .text,
      required "text" .text,
      defaulted "decls" (.record .table),
      required "nodes" (.array (.record .node)),
      defaulted "macros" (.array (.record .range))]

-----------------------------------------------------------------------------------------
-- Values of a form
-----------------------------------------------------------------------------------------

/-- A value is of a form, and so are its parts. What an object has besides its fields is free. -/
inductive Fits : Form → Json → Prop where
  | text (text : String) : Fits .text (.string text)
  | flag (value : Bool) : Fits .flag (.bool value)
  | coordinate {number : Number} {n : Nat} (natural : number.toNat? = some n)
      : Fits .coordinate (.number number)
  | word {words : List String} {word : String} (listed : word ∈ words)
      : Fits (.word words) (.string word)
  | reference (id : DeclId) : Fits .reference (.string id)
  | bareName (text : String) : Fits .name (.string text)
  | name {json : Json} (full : Fits (.record .name) json) : Fits .name json
  | array {form : Form} {items : List Json} (each : ∀ item ∈ items, Fits form item)
      : Fits (.array form) (.array items)
  | record {record : Record} {members : List (String × Json)}
      (complete
        : ∀ field ∈ record.fields members,
            field.need = .required → (field.value? members).isSome)
      (each
        : ∀ field ∈ record.fields members,
            ∀ value, field.value? members = some value → Fits field.form value)
      : Fits (.record record) (.object members)

/-- A value of a form refers to a declaration, itself or in one of its parts. -/
inductive Refers : Form → Json → DeclId → Prop where
  | reference (id : DeclId) : Refers .reference (.string id) id
  | name {json : Json} {id : DeclId} (refers : Refers (.record .name) json id)
      : Refers .name json id
  | array {form : Form} {items : List Json} {item : Json} {id : DeclId} (member : item ∈ items)
      (refers : Refers form item id)
      : Refers (.array form) (.array items) id
  | record {record : Record} {members : List (String × Json)} {field : Field} {value : Json}
      {id : DeclId} (member : field ∈ record.fields members)
      (found : field.value? members = some value) (refers : Refers field.form value id)
      : Refers (.record record) (.object members) id

end Grammar

namespace Json

open Grammar

/-- What a tree lists as the declaration of that id. -/
def declared? (json : Json) (id : DeclId) : Option Json := do
  let table ← json.get? "decls"
  table.get? id

/-- A declaration is reached from the nodes of a tree: one of them refers to it, or a declaration
that is reached does.
-/
inductive Reaches (json : Json) : DeclId → Prop where
  | mentioned {id : DeclId} (refers : Refers (.record .tree) json id) : Reaches json id
  | followed {id next : DeclId} {value : Json} (reached : Reaches json id)
      (found : json.declared? id = some value) (refers : Refers (.record .declaration) value next)
      : Reaches json next

/-- A value describes a resolved tree. The declarations that it reaches are listed and of their
form; it may list others of any form.
-/
structure IsTree (json : Json) : Prop where
  fits : Fits (.record .tree) json
  known
    : ∀ id,
        json.Reaches id
        → ∃ value, json.declared? id = some value ∧ Fits (.record .declaration) value

end Json

end Highlighter
