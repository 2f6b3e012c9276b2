/-! The kinds of highlighted names. A kind travels as its ordinal, so their order is fixed; its
name and its fallback scope are for clients that show or colour it otherwise.
-/

namespace Highlighter

/-- What a highlighted name stands for, in the order of the ordinals. -/
inductive Kind where
  | globalVariable
  | localVariable
  | parameter
  | function
  | method
  | staticMethod
  | field
  | staticField
  | classType
  | enumType
  | enumConstant
  | typedef
  | dependentType
  | dependentName
  | namespaceName
  | templateParameter
  | primitive
  | macroName
deriving DecidableEq, Repr

namespace Kind

/-- The kinds by ascending ordinal. -/
def all : List Kind :=
  [.globalVariable, .localVariable, .parameter, .function, .method, .staticMethod, .field,
    .staticField, .classType, .enumType, .enumConstant, .typedef, .dependentType,
    .dependentName, .namespaceName, .templateParameter, .primitive, .macroName]

/-- The number that a kind travels as. -/
def ordinal : Kind → Nat
  | globalVariable => 0
  | localVariable => 1
  | parameter => 2
  | function => 3
  | method => 4
  | staticMethod => 5
  | field => 6
  | staticField => 7
  | classType => 8
  | enumType => 9
  | enumConstant => 10
  | typedef => 11
  | dependentType => 12
  | dependentName => 13
  | namespaceName => 14
  | templateParameter => 15
  | primitive => 16
  | macroName => 17

/-- The kind of that ordinal. -/
def ofOrdinal? : Int → Option Kind
  | .ofNat n => all[n]?
  | .negSucc _ => none

/-- A kind is found again by its ordinal. -/
theorem ofOrdinal?_ordinal (kind : Kind) : ofOrdinal? kind.ordinal = some kind := by
  cases kind <;> rfl

/-- The name of a kind, as tables and lists show it. -/
def name : Kind → String
  | globalVariable => "Variable"
  | localVariable => "LocalVariable"
  | parameter => "Parameter"
  | function => "Function"
  | method => "Method"
  | staticMethod => "StaticMethod"
  | field => "Field"
  | staticField => "StaticField"
  | classType => "Class"
  | enumType => "Enum"
  | enumConstant => "EnumConstant"
  | typedef => "Typedef"
  | dependentType => "DependentType"
  | dependentName => "DependentName"
  | namespaceName => "Namespace"
  | templateParameter => "TemplateParameter"
  | primitive => "Primitive"
  | macroName => "Macro"

/-- The TextMate scope for clients that colour by scope. -/
def scope : Kind → String
  | globalVariable => "variable.other.cpp"
  | localVariable => "variable.other.local.cpp"
  | parameter => "variable.parameter.cpp"
  | function => "entity.name.function.cpp"
  | method => "entity.name.function.method.cpp"
  | staticMethod => "entity.name.function.method.static.cpp"
  | field => "variable.other.field.cpp"
  | staticField => "variable.other.field.static.cpp"
  | classType => "entity.name.type.class.cpp"
  | enumType => "entity.name.type.enum.cpp"
  | enumConstant => "variable.other.enummember.cpp"
  | typedef => "entity.name.type.typedef.cpp"
  | dependentType => "entity.name.type.dependent.cpp"
  | dependentName => "entity.name.other.dependent.cpp"
  | namespaceName => "entity.name.namespace.cpp"
  | templateParameter => "entity.name.type.template.cpp"
  | primitive => "storage.type.primitive.cpp"
  | macroName => "entity.name.function.preprocessor.cpp"

end Kind

end Highlighter
