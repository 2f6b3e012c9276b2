import Highlighter.Range

/-! Declarations of a program, as a compiler has resolved them. Declarations and types refer to
declarations by id, so a table of them may share and may be cyclic.
-/

namespace Highlighter

/-- What identifies a declaration in its tree. -/
abbrev DeclId := String

/-- What a name is made of. -/
inductive NameForm where
  | identifier
  | constructor
  | destructor
  | conversion
  | operator
  | usingDirective
  | deductionGuide
deriving DecidableEq, Repr

/-- A name as it is declared or mentioned. -/
structure DeclName where
  form : NameForm
  text : String
deriving DecidableEq, Repr

namespace DeclName

/-- The name is written in the source. Anonymous entities have an empty identifier, and of the
names that are no identifier only those of constructors and using directives are spelled as one.
-/
def isWritten (name : DeclName) : Bool :=
  match name.form with
  | .constructor | .usingDirective => true
  | .identifier => name.text ≠ ""
  | _ => false

end DeclName

/-- A position in a file. -/
structure FileLocation where
  file : String
  position : Position
deriving DecidableEq, Repr

/-- Where something stands: in a file, or in the expansion of a macro whose spelling is in one.
What an expansion takes from an argument is written by the user, what it takes from the macro's
body is not.
-/
inductive Location where
  | file (location : FileLocation)
  | expansion (fromArgument : Bool) (spelling : FileLocation)
deriving DecidableEq, Repr

/-- Where a variable lives. -/
inductive Storage where
  | staticMember
  | local
  | global
deriving DecidableEq, Repr

/-- Ways to write a type that is another type. -/
inductive Sugar where
  | typedef
  | elaborated
  | decltype
  | auto
  | paren
deriving DecidableEq, Repr

/-- A type as it is written. -/
inductive TypeRef where
  | builtin (name : String)
  | templateParameter (decl : Option DeclId)
  | tag (decl : DeclId)
  | sugared (sugar : Sugar) (underlying : Option TypeRef)
  | other
deriving Repr

/-- What is declared, with the references that matter for its kind. -/
inductive Entity where
  | usingShadow (target : Option DeclId)
  | template (templated : Option DeclId)
  | typedef (underlying : Option TypeRef)
  | record (isLambda : Bool)
  | constructor
  | method (isStatic : Bool)
  | field
  | enumType
  | enumConstant
  | parameter
  | variableName (storage : Storage)
  | binding
  | function
  | namespaceName
  | namespaceAlias (aliased : Option DeclId) (targetName : Option Location)
  | usingDirective
  | usingList (shadows : List DeclId)
  | typeParameter
  | valueParameter
  | templateParameter
  | other
deriving Repr

/-- A declaration. -/
structure Decl where
  id : DeclId
  name : DeclName
  location : Option Location
  entity : Entity
deriving Repr

/-- The declarations of a tree. -/
structure DeclTable where
  decls : List Decl
deriving Repr

namespace DeclTable

/-- The declaration of that id. -/
def find? (table : DeclTable) (id : DeclId) : Option Decl :=
  table.decls.find? fun decl => decl.id = id

/-- The number of declarations. -/
def size (table : DeclTable) : Nat := table.decls.length

/-- What a table finds has the id that was asked for. -/
theorem id_of_find? {table : DeclTable} {id : DeclId} {decl : Decl}
    (h : table.find? id = some decl)
    : decl.id = id := by
  simpa using List.find?_some h

end DeclTable

end Highlighter
