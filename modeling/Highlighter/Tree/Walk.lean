import Highlighter.Decl.Classification
import Highlighter.Token
import Highlighter.Tree

/-! Walking a tree once, each node before its children. A node asks for occurrences, each a kind at
a location; one that lies in the main file becomes a token, or a diagnostic when no token starts
there. If the search for a kind never ends, neither does the walk, and nothing comes of it.
-/

namespace Highlighter

/-- A kind at a location. Either may be missing, and then nothing is highlighted. -/
structure Occurrence where
  location : Option Location
  kind : Option Kind
deriving DecidableEq, Repr

namespace Occurrence

/-- Where the user wrote it: a place in a file, or the spelling of a macro's argument. -/
def written? : Location → Option FileLocation
  | .file location => some location
  | .expansion true spelling => some spelling
  | .expansion false _ => none

end Occurrence

/-- What a node asks at a location: which kind it has, as the search for that kind finds it. -/
structure Question where
  location : Option Location
  kind : Except Endless (Option Kind)

/-- The occurrence that answers a question. Its kind is searched for even without a location. -/
def Question.answer (question : Question) : Except Endless Occurrence :=
  question.kind.map fun kind => ⟨question.location, kind⟩

/-- The questions of a declaration where it is made: of its name, of the name that an alias stands
for, which no other node mentions, and of the name that a using declaration lists.
-/
def Decl.questions (decl : Decl) (table : DeclTable) : List Question :=
  let own : List Question :=
    if decl.name.isWritten then [⟨decl.location, table.kindOf decl.id⟩] else []
  let referred : List Question :=
    match decl.entity with
    | .namespaceAlias (some aliased) targetName => [⟨targetName, table.kindOf aliased⟩]
    | .usingList shadows => [⟨decl.location, table.candidatesKind shadows⟩]
    | _ => []
  own ++ referred

namespace Shape

/-- The question of a name, if it is written. -/
def named (name : DeclName) (location : Option Location) (kind : Except Endless (Option Kind))
    : List Question :=
  if name.isWritten then [⟨location, kind⟩] else []

/-- The questions of a node, in their order. -/
def questions (table : DeclTable) : Shape → List Question
  | .declaration id placeholder =>
      let declared := match table.find? id with
        | some decl => decl.questions table
        | none => []
      let deduced : List Question := match placeholder with
        | some ⟨location, some type⟩ => [⟨location, table.typeKind type⟩]
        | _ => []
      declared ++ deduced
  | .declRef location name decl | .memberAccess location name decl =>
      named name location (table.kindOf decl)
  | .overloadRef location name candidates =>
      named name location
        ((table.candidatesKind candidates).map fun kind => some (kind.getD .dependentName))
  | .dependentDeclRef location name | .dependentMemberAccess location name =>
      named name location (.ok (some .dependentName))
  | .typedefTypeRef location decl => [⟨location, table.kindOf decl⟩]
  | .templateSpecializationRef location template
  | .memberInitializer location template =>
      match template with
      | some decl => [⟨location, table.kindOf decl⟩]
      | none => []
  | .tagTypeRef location type isDefinition =>
      if isDefinition then [] else [⟨location, table.typeKind type⟩]
  | .decltypeRef location type => [⟨location, table.typeKind type⟩]
  | .dependentTypeRef location => [⟨location, .ok (some .dependentType)⟩]
  | .templateParameterTypeRef location => [⟨location, .ok (some .templateParameter)⟩]
  | .namespaceQualifier location qualifier =>
      match qualifier with
      | .namespaceName | .namespaceAlias => [⟨location, .ok (some .namespaceName)⟩]
      | _ => []

/-- The occurrences that a node asks for, in their order, if all their kinds are found. -/
def occurrences (table : DeclTable) (shape : Shape) : Except Endless (List Occurrence) :=
  (shape.questions table).mapM Question.answer

end Shape

/-- What an occurrence leads to. -/
inductive Emission where
  | token (token : Token)
  /-- No token starts at the place. -/
  | diagnostic (place : FileLocation)
deriving DecidableEq, Repr

namespace Emission

/-- What a kind at a place of the main file leads to. -/
def at? (source : Source) (kind : Kind) (place : FileLocation) : Option Emission :=
  if place.file = source.file then
    match source.tokenRange place.position with
    | some range => some (.token (.ofKind kind range))
    | none => some (.diagnostic place)
  else none

/-- What an occurrence leads to, if it is written in the main file and has a kind. -/
def ofOccurrence (source : Source) (occurrence : Occurrence) : Option Emission :=
  match occurrence.location, occurrence.kind with
  | some location, some kind => (Occurrence.written? location).bind (at? source kind)
  | _, _ => none

/-- What visiting a node alone leads to. -/
def ofShape (table : DeclTable) (source : Source) (shape : Shape)
    : Except Endless (List Emission) :=
  (shape.occurrences table).map fun occurrences => occurrences.filterMap (ofOccurrence source)

/-- What visiting a stack of nodes leads to: each node in turn, its children going on top of the
stack before the next one is taken.
-/
def ofStack (table : DeclTable) (source : Source) : List Node → Except Endless (List Emission)
  | [] => return []
  | node :: stack => do
      let here ← ofShape table source node.shape
      let later ← ofStack table source (node.children ++ stack)
      return here ++ later
termination_by stack => Node.sizeAll stack
decreasing_by
  simp only [Node.sizeAll_append, Node.sizeAll, Node.size_eq]
  omega

/-- The token of an emission, if it is one. -/
def token? : Emission → Option Token
  | .token found => some found
  | .diagnostic _ => none

/-- The place of an emission that is a diagnostic. -/
def diagnostic? : Emission → Option FileLocation
  | .token _ => none
  | .diagnostic place => some place

end Emission

/-- Tokens, and the places where a token was asked for and none starts. -/
structure Highlights where
  tokens : List Token
  diagnostics : List FileLocation
deriving DecidableEq, Repr

namespace Tree

/-- Every emission of a tree. -/
def emissions (tree : Tree) : Except Endless (List Emission) :=
  Emission.ofStack tree.decls tree.source tree.nodes

/-- The raw tokens of a tree, unsorted and with repetitions, and its diagnostics. -/
def walk (tree : Tree) : Except Endless Highlights :=
  tree.emissions.map fun emissions =>
    ⟨emissions.filterMap Emission.token?, emissions.filterMap Emission.diagnostic?⟩

end Tree

/-- How diagnostics at a place are worded. -/
def invalidRange : String := "Tried to add semantic token with an invalid range"

namespace FileLocation

/-- A diagnostic at that place, as it is logged. -/
def diagnosticText (place : FileLocation) : String :=
  invalidRange ++ " at " ++ place.file ++ ":" ++ integerText place.position.line ++ ":"
    ++ integerText place.position.character

end FileLocation

end Highlighter
