import Highlighter.Decl.Basis
import Highlighter.Text.Units
import Highlighter.Tree.Preorder
import Highlighter.Tree.Walker
import Mathlib.Data.List.Forall2

/-! What the occurrences of a tree contribute to its highlights. A node asks questions by a few
rules, and each answer is an occurrence. An occurrence contributes a token or a diagnostic if both
its parts are there and it is written in the main file, and nothing otherwise; what the others
contribute makes no difference to that.
-/

namespace Highlighter

-----------------------------------------------------------------------------------------
-- What nodes ask for
-----------------------------------------------------------------------------------------

namespace Question

/-- Why a node asks. -/
inductive Reason where
  /-- The name of the declaration that is made. -/
  | declared
  /-- The name that an alias stands for. -/
  | aliased
  /-- The name that a using declaration lists. -/
  | listed
  /-- A placeholder, for the type that it stands for. -/
  | deduced
  /-- What a node mentions that makes no declaration. -/
  | mentioned

/-- The reasons in the order in which a node asks. -/
def Reason.all : List Reason := [declared, aliased, listed, deduced, mentioned]

/-- Questions are asked for these reasons in their order, one for each that applies. -/
def AskedBy (reasons : List Reason) (asks : Reason → Question → Prop) (questions : List Question)
    : Prop :=
  ∃ own : List Reason,
    own.Sublist reasons
    ∧ own.length = questions.length
    ∧ ∀ reason question, asks reason question ↔ (reason, question) ∈ own.zip questions

/-- An occurrence is at the location that is asked about, with the kind that is found, or without
one.
-/
structure AnsweredBy (question : Question) (occurrence : Occurrence) : Prop where
  location : question.location = occurrence.location
  kind : question.kind = .ok occurrence.kind

end Question

/-- A node asks a question. -/
inductive Shape.Asks (table : DeclTable) : Shape → Question.Reason → Question → Prop
  | declared {id placeholder decl} (found : table.find? id = some decl)
    (written : decl.name.isWritten = true)
    : Asks table (.declaration id placeholder) .declared ⟨decl.location, table.kindOf id⟩
  | aliased {id placeholder decl aliased targetName} (found : table.find? id = some decl)
    (renames : decl.entity = .namespaceAlias (some aliased) targetName)
    : Asks table (.declaration id placeholder) .aliased ⟨targetName, table.kindOf aliased⟩
  | listed {id placeholder decl shadows kind} (found : table.find? id = some decl)
    (lists : decl.entity = .usingList shadows) (common : table.Common shadows kind)
    : Asks table (.declaration id placeholder) .listed ⟨decl.location, .ok kind⟩
  | deduced {id location type}
    : Asks table (.declaration id (some ⟨location, some type⟩)) .deduced
        ⟨location, table.typeKind type⟩
  | declRef {location name decl} (written : name.isWritten = true)
    : Asks table (.declRef location name decl) .mentioned ⟨location, table.kindOf decl⟩
  | memberAccess {location name decl} (written : name.isWritten = true)
    : Asks table (.memberAccess location name decl) .mentioned ⟨location, table.kindOf decl⟩
  /-- A name of candidates that have nothing in common depends on which of them is meant. -/
  | overloadRef {location name candidates kind} (written : name.isWritten = true)
    (common : table.Common candidates kind)
    : Asks table (.overloadRef location name candidates) .mentioned
        ⟨location, .ok (some (kind.getD .dependentName))⟩
  | dependentDeclRef {location name} (written : name.isWritten = true)
    : Asks table (.dependentDeclRef location name) .mentioned ⟨location, .ok (some .dependentName)⟩
  | dependentMemberAccess {location name} (written : name.isWritten = true)
    : Asks table (.dependentMemberAccess location name) .mentioned
        ⟨location, .ok (some .dependentName)⟩
  | typedefTypeRef {location decl}
    : Asks table (.typedefTypeRef location decl) .mentioned ⟨location, table.kindOf decl⟩
  | templateSpecializationRef {location decl}
    : Asks table (.templateSpecializationRef location (some decl)) .mentioned
        ⟨location, table.kindOf decl⟩
  /-- The defining mention is the declaration's own name. -/
  | tagTypeRef {location type}
    : Asks table (.tagTypeRef location type false) .mentioned ⟨location, table.typeKind type⟩
  | decltypeRef {location type}
    : Asks table (.decltypeRef location type) .mentioned ⟨location, table.typeKind type⟩
  | dependentTypeRef {location}
    : Asks table (.dependentTypeRef location) .mentioned ⟨location, .ok (some .dependentType)⟩
  | templateParameterTypeRef {location}
    : Asks table (.templateParameterTypeRef location) .mentioned
        ⟨location, .ok (some .templateParameter)⟩
  | namespaceQualifier {location qualifier}
    (ofNamespace : qualifier = .namespaceName ∨ qualifier = .namespaceAlias)
    : Asks table (.namespaceQualifier location qualifier) .mentioned
        ⟨location, .ok (some .namespaceName)⟩
  | memberInitializer {location decl}
    : Asks table (.memberInitializer location (some decl)) .mentioned
        ⟨location, table.kindOf decl⟩

-----------------------------------------------------------------------------------------
-- What occurrences contribute
-----------------------------------------------------------------------------------------

namespace Occurrence

/-- Both parts of an occurrence are there, and it is written at a place of the main file: directly,
or as the argument of a macro.
-/
structure StandsAt (source : Source) (occurrence : Occurrence) (kind : Kind) (place : FileLocation)
    : Prop where
  kinded : occurrence.kind = some kind
  written
    : occurrence.location = some (.file place)
      ∨ occurrence.location = some (.expansion true place)
  inside : place.file = source.file

/-- An occurrence counts, whatever it contributes. -/
def Stands (source : Source) (occurrence : Occurrence) : Prop :=
  ∃ kind place, occurrence.StandsAt source kind place

theorem stands_iff {source : Source} {occurrence : Occurrence}
    : occurrence.Stands source
      ↔ ∃ _ ∈ occurrence.kind, ∃ location ∈ occurrence.location, ∃ place ∈ written? location,
          place.file = source.file := by
  constructor
  · rintro ⟨kind, place, kinded, written | written, inside⟩
    · exact ⟨kind, kinded, _, written, place, rfl, inside⟩
    · exact ⟨kind, kinded, _, written, place, rfl, inside⟩
  · rintro ⟨kind, kinded, location, located, place, written, inside⟩
    unfold written? at written
    split at written
    next => exact ⟨kind, place, kinded, .inl (Option.some.inj written ▸ located), inside⟩
    next => exact ⟨kind, place, kinded, .inr (Option.some.inj written ▸ located), inside⟩
    next => contradiction

instance decidableStands (source : Source) : DecidablePred (Stands source) :=
  fun _ => decidable_of_iff _ stands_iff.symm

/-- What occurrences contribute, one after another. -/
inductive Contribute (source : Source) : List Occurrence → Highlights → Prop
  | done : Contribute source [] ⟨[], []⟩
  /-- A token starts at the place. -/
  | token {occurrence rest kind place range found} (stands : occurrence.StandsAt source kind place)
    (measured : source.tokenRange place.position = some range)
    (others : Contribute source rest found)
    : Contribute source (occurrence :: rest)
        ⟨.ofKind kind range :: found.tokens, found.diagnostics⟩
  /-- No token starts at the place. -/
  | diagnostic {occurrence rest kind place found}
    (stands : occurrence.StandsAt source kind place)
    (unmeasured : source.tokenRange place.position = none)
    (others : Contribute source rest found)
    : Contribute source (occurrence :: rest) ⟨found.tokens, place :: found.diagnostics⟩
  /-- A part is missing, or what is there is not written in the main file. -/
  | nothing {occurrence rest found} (idle : ¬ occurrence.Stands source)
    (others : Contribute source rest found)
    : Contribute source (occurrence :: rest) found

end Occurrence

/-- What is found first and what is found then. -/
def Highlights.followedBy (found later : Highlights) : Highlights :=
  ⟨found.tokens ++ later.tokens, found.diagnostics ++ later.diagnostics⟩

-----------------------------------------------------------------------------------------
-- The account of a tree
-----------------------------------------------------------------------------------------

/-- The locations that a declaration has. -/
def Decl.locations (decl : Decl) : List Location :=
  decl.location.toList
    ++ match decl.entity with
      | .namespaceAlias _ targetName => targetName.toList
      | _ => []

/-- The locations that a node has, with those of the declaration that is made there. -/
def Shape.locations (table : DeclTable) : Shape → List Location
  | .declaration id placeholder =>
      (table.find? id).toList.flatMap Decl.locations
        ++ (placeholder.bind Placeholder.location).toList
  | .declRef location _ _ | .memberAccess location _ _ | .overloadRef location _ _
  | .dependentDeclRef location _ | .dependentMemberAccess location _ | .typedefTypeRef location _
  | .templateSpecializationRef location _ | .tagTypeRef location _ _ | .decltypeRef location _
  | .dependentTypeRef location | .templateParameterTypeRef location
  | .namespaceQualifier location _ | .memberInitializer location _ =>
      location.toList

/-- A range has at least one unit and ends where its line does, or before. -/
def Source.Encloses (source : Source) (range : Range) : Prop :=
  ∃ (line start stop : Nat) (text : List Char),
    source.lines[line]? = some text
    ∧ start < stop
    ∧ stop ≤ (text.flatMap Text.units).length
    ∧ range = .between line start line stop

namespace Tree

/-- The questions of all nodes of a tree. -/
def questions (tree : Tree) : List Question :=
  (Node.forestOrder tree.nodes).flatMap fun node => node.shape.questions tree.decls

/-- All occurrences that the nodes of a tree ask for, if all their kinds are found. -/
def occurrences (tree : Tree) : Except Endless (List Occurrence) :=
  tree.questions.mapM Question.answer

/-- A place of the main file is one of the tree's own. -/
def HasPlace (tree : Tree) (place : FileLocation) : Prop :=
  place.file = tree.source.file
  ∧ ∃ node ∈ Node.forestOrder tree.nodes,
      ∃ location ∈ node.shape.locations tree.decls,
        location = .file place ∨ location = .expansion true place

/-- What is found in a tree is accounted for by its occurrences. -/
structure Accounted (tree : Tree) (occurrences : List Occurrence) (found : Highlights) : Prop where
  /-- The search for a kind ends, with the kind that is found or without one. -/
  kinds
    : ∀ id,
        ∃ kind,
          tree.decls.kindOf id = .ok kind
          ∧ ∀ other, tree.decls.Classifies id other ↔ other = kind
  /-- A node asks the questions that the rules say, each of them once. -/
  asked
    : ∀ shape : Shape,
        Question.AskedBy Question.Reason.all (shape.Asks tree.decls) (shape.questions tree.decls)
  /-- Each question of a node has an answer. -/
  answered
    : ∀ shape : Shape,
        ∃ own,
          shape.occurrences tree.decls = .ok own
          ∧ List.Forall₂ Question.AnsweredBy (shape.questions tree.decls) own
  /-- Those of all nodes, in pre-order, are the occurrences of the tree. -/
  all
    : tree.occurrences = .ok occurrences
      ∧ List.Forall₂ Question.AnsweredBy tree.questions occurrences
  /-- Occurrences contribute something in one way only. -/
  once
    : ∀ occurrences,
        ∃ found, ∀ other, Occurrence.Contribute tree.source occurrences other ↔ other = found
  /-- A visit adds what the occurrences of the node contribute, at any time of the walk. -/
  visit
    : ∀ (walker : Walker) node result,
        walker.step? tree = some (node, result)
        → ∃ after own here,
            result = .ok after
            ∧ node.shape.occurrences tree.decls = .ok own
            ∧ Occurrence.Contribute tree.source own here
            ∧ after.found = walker.found.followedBy here
  /-- A walk that is over has found what all occurrences contribute. -/
  walk
    : ∀ nodes result,
        Walker.Visits tree (.start tree) nodes result
        ↔ nodes = Node.forestOrder tree.nodes
          ∧ ∃ other, result = .ok other ∧ Occurrence.Contribute tree.source occurrences other
  whole : tree.walk = .ok found ∧ Occurrence.Contribute tree.source occurrences found
  /-- There is a token or a diagnostic for each occurrence that counts. -/
  balance
    : found.tokens.length + found.diagnostics.length
      = occurrences.countP fun occurrence => occurrence.Stands tree.source
  /-- A token is the one that starts at a place of the tree, and none of a macro. -/
  tokens
    : ∀ token ∈ found.tokens,
        (∃ place,
          tree.HasPlace place
          ∧ tree.source.tokenRange place.position = some token.range
          ∧ token.range.start = place.position)
        ∧ tree.source.Encloses token.range
        ∧ 0 ≤ token.kind
        ∧ token.kind ≤ 16
  /-- A diagnostic is of a place of the tree where no token starts. -/
  diagnostics
    : ∀ place ∈ found.diagnostics,
        tree.HasPlace place ∧ tree.source.tokenRange place.position = none
  /-- Where no token starts, the other occurrences contribute what they do without that one. -/
  undisturbed
    : ∀ front occurrence back kind place,
        occurrences = front ++ occurrence :: back
        → occurrence.StandsAt tree.source kind place
        → tree.source.tokenRange place.position = none
        → ∃ before after,
            Occurrence.Contribute tree.source front before
            ∧ Occurrence.Contribute tree.source back after
            ∧ Occurrence.Contribute tree.source (front ++ back) (before.followedBy after)
            ∧ found = before.followedBy ⟨after.tokens, place :: after.diagnostics⟩

end Tree

end Highlighter
