import Highlighter.Decl
import Highlighter.Kind

/-! The kind that a declaration or a type is highlighted as. Wrappers (using shadows and templates)
and sugar are looked through up to a fixed depth; a typedef is highlighted as what it stands for,
whatever the length of its chain. Without a kind nothing is highlighted. Typedefs that stand for
each other in a circle are followed without end, and then there is neither a kind nor its absence.
-/

namespace Highlighter

/-- Why the search for a kind never ends. -/
inductive Endless where
  /-- Typedefs stand for each other in a circle. -/
  | typedefs
deriving DecidableEq, Repr

/-- How a search without an end is reported once it has used up its stack. -/
def Endless.message : Endless → String
  | typedefs => "Maximum call stack size exceeded"

/-- How many wrappers or layers of sugar are examined before a chain is given up; well-formed
chains have a handful of links.
-/
def unwrapLimit : Nat := 16

namespace Entity

/-- The declaration that a wrapper stands for. -/
def wrapped? : Entity → Option DeclId
  | usingShadow target => target
  | template templated => templated
  | _ => none

end Entity

namespace DeclTable

/-- The declaration behind a chain of wrappers, if one of the first `limit` declarations of the
chain wraps no other.
-/
def unwrap (table : DeclTable) : Nat → DeclId → Option Decl
  | 0, _ => none
  | limit + 1, id =>
      match table.find? id with
      | none => none
      | some decl =>
          match decl.entity.wrapped? with
          | some target => table.unwrap limit target
          | none => some decl

end DeclTable

namespace TypeRef

/-- The type under the sugar, if it is among the first `limit` types of the chain. -/
def desugar : Nat → TypeRef → Option TypeRef
  | 0, _ => none
  | limit + 1, .sugared _ (some underlying) => desugar limit underlying
  | _ + 1, .sugared _ none => none
  | _ + 1, type => some type

/-- The kind of a type, where `kindOf` searches that of a declaration. A type parameter counts only
where it is written without sugar.
-/
def kindBy (kindOf : DeclId → Except Endless (Option Kind)) (type : TypeRef)
    : Except Endless (Option Kind) :=
  match type.desugar unwrapLimit with
  | some (.builtin _) => .ok (some .primitive)
  | some (.tag decl) => kindOf decl
  | _ =>
      match type with
      | .templateParameter (some decl) => kindOf decl
      | _ => .ok none

end TypeRef

namespace Entity

/-- The kind of what is declared, whatever it refers to: that of typedefs is a general one. -/
def ownKind : Entity → Option Kind
  | typedef _ => some .typedef
  | record isLambda => if isLambda then none else some .classType
  | constructor => some .classType
  | method isStatic => some (if isStatic then .staticMethod else .method)
  | field => some .field
  | enumType => some .enumType
  | enumConstant => some .enumConstant
  | parameter => some .parameter
  | variableName .staticMember => some .staticField
  | variableName .local => some .localVariable
  | variableName .global => some .globalVariable
  | binding => some .globalVariable
  | function => some .function
  | namespaceName | namespaceAlias _ _ | usingDirective => some .namespaceName
  | typeParameter | valueParameter | templateParameter => some .templateParameter
  | usingShadow _ | template _ | usingList _ | other => none

/-- The kind of what is declared, where `kindOf` searches that of another declaration. -/
def kindBy (kindOf : DeclId → Except Endless (Option Kind)) (entity : Entity)
    : Except Endless (Option Kind) :=
  match entity with
  | typedef (some underlying) =>
      (underlying.kindBy kindOf).map fun kind => some (kind.getD .typedef)
  | entity => .ok entity.ownKind

end Entity

namespace DeclTable

/-- The kind of what is behind the wrappers of a declaration, where `kindOf` searches that of
another one.
-/
def kindBy (table : DeclTable) (kindOf : DeclId → Except Endless (Option Kind)) (id : DeclId)
    : Except Endless (Option Kind) :=
  match table.unwrap unwrapLimit id with
  | none => .ok none
  | some decl => decl.entity.kindBy kindOf

/-- The kind of a declaration, through at most `typedefs` typedefs. A search that is not over then
is given up as one without an end.
-/
def kindWithin (table : DeclTable) : Nat → DeclId → Except Endless (Option Kind)
  | 0 => fun _ => .error .typedefs
  | typedefs + 1 => table.kindBy (table.kindWithin typedefs)

/-- The kind of a declaration. A chain of typedefs that ends has no more links than the table has
declarations, so only a search without an end is given up.
-/
def kindOf (table : DeclTable) (id : DeclId) : Except Endless (Option Kind) :=
  table.kindWithin (table.size + 1) id

/-- The kind of a type. -/
def typeKind (table : DeclTable) (type : TypeRef) : Except Endless (Option Kind) :=
  type.kindBy table.kindOf

/-- The kind that candidates have in common with the ones before them, whose kind is `shared` if
there are any. The first candidate without a kind or with another one decides that there is none,
and those behind it are not looked at.
-/
def commonKind (table : DeclTable) (shared : Option Kind)
    : List DeclId → Except Endless (Option Kind)
  | [] => .ok shared
  | candidate :: rest => do
      match ← table.kindOf candidate with
      | none => return none
      | some kind =>
          if shared.all (· = kind) then table.commonKind (some kind) rest else return none

/-- The kind that all candidates of a name have; none if one has no kind or two disagree. -/
def candidatesKind (table : DeclTable) (candidates : List DeclId)
    : Except Endless (Option Kind) :=
  table.commonKind none candidates

end DeclTable

end Highlighter
