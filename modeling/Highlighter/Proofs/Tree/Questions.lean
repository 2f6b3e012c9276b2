import Highlighter.Proofs.Decl.Candidates
import Highlighter.Proofs.Results
import Highlighter.Tree.Contributions

/-! What nodes ask, and that it is answered. A question is about the kind of a declaration, of a
type or of some candidates, or its answer is known, and its location is one that the node has.
Questions have answers if each of their searches ends, which without cycles of typedefs they all do.
-/

namespace Highlighter

-----------------------------------------------------------------------------------------
-- Answers
-----------------------------------------------------------------------------------------

namespace Question

variable {question : Question} {questions : List Question} {occurrences : List Occurrence}

theorem answer_eq_ok {occurrence : Occurrence}
    : question.answer = .ok occurrence ↔ question.AnsweredBy occurrence := by
  obtain ⟨location, kind⟩ := occurrence
  simp only [answer, ok_of_map_iff, Occurrence.mk.injEq]
  constructor
  · rintro ⟨_, found, same, rfl⟩
    exact ⟨same, found⟩
  · rintro ⟨same, found⟩
    exact ⟨kind, found, same, rfl⟩

/-- Questions are answered one by one. -/
theorem answers_eq_ok
    : questions.mapM answer = .ok occurrences
      ↔ List.Forall₂ AnsweredBy questions occurrences := by
  simp only [ok_of_mapM_iff, answer_eq_ok]

/-- Questions have answers if the search of each of them ends. -/
theorem exists_answers (ended : ∀ question ∈ questions, ∃ kind, question.kind = .ok kind)
    : ∃ occurrences, questions.mapM answer = .ok occurrences := by
  have each : ∀ question ∈ questions, ∃ occurrence, AnsweredBy question occurrence := by
    intro question member
    obtain ⟨kind, found⟩ := ended question member
    exact ⟨⟨question.location, kind⟩, rfl, found⟩
  obtain ⟨occurrences, answered⟩ := exists_forall₂ each
  exact ⟨occurrences, answers_eq_ok.mpr answered⟩

/-- An answer is one to some question. -/
theorem exists_question_of_mem (answered : List.Forall₂ AnsweredBy questions occurrences)
    {occurrence : Occurrence} (member : occurrence ∈ occurrences)
    : ∃ question ∈ questions, question.AnsweredBy occurrence := by
  have flipped : List.Forall₂ (flip AnsweredBy) occurrences questions := answered.flip
  exact exists_companion flipped member

/-- A question among answered ones has an answer. -/
theorem exists_kind_of_mem (answered : List.Forall₂ AnsweredBy questions occurrences)
    (member : question ∈ questions)
    : ∃ kind, question.kind = .ok kind := by
  obtain ⟨occurrence, -, here⟩ := exists_companion answered member
  exact ⟨occurrence.kind, here.kind⟩

end Question

-----------------------------------------------------------------------------------------
-- What is searched for
-----------------------------------------------------------------------------------------

/-- What a node may ask for: a kind of the table, or one that is known and not that of macros. -/
inductive DeclTable.Sought (table : DeclTable) : Except Endless (Option Kind) → Prop
  | decl (id : DeclId) : Sought table (table.kindOf id)
  | type (type : TypeRef) : Sought table (table.typeKind type)
  | candidates (candidates : List DeclId) : Sought table (table.candidatesKind candidates)
  | overloads (candidates : List DeclId)
    : Sought table
        ((table.candidatesKind candidates).map fun kind => some (kind.getD .dependentName))
  | known {kind : Kind} (other : kind ≠ .macroName) : Sought table (.ok (some kind))

/-- A question is at one of some locations, if it is at any, and asks for what may be asked for. -/
structure Question.Among (table : DeclTable) (locations : List Location) (question : Question)
    : Prop where
  kind : table.Sought question.kind
  location : ∀ location, question.location = some location → location ∈ locations

section

variable {table : DeclTable} {locations : List Location} {location : Option Location}
  {kind : Except Endless (Option Kind)}

theorem Question.among_single (sought : table.Sought kind)
    (listed : ∀ place, location = some place → place ∈ locations)
    : ∀ question ∈ ([⟨location, kind⟩] : List Question), question.Among table locations :=
  List.forall_mem_singleton.mpr ⟨sought, listed⟩

theorem Shape.among_named {name : DeclName} (sought : table.Sought kind)
    (listed : ∀ place, location = some place → place ∈ locations)
    : ∀ question ∈ named name location kind, question.Among table locations := by
  unfold named
  split
  · exact Question.among_single sought listed
  · exact List.forall_mem_nil _

/-- The questions of a declaration are about locations of it. -/
theorem Decl.among_questions (decl : Decl)
    : ∀ question ∈ decl.questions table, question.Among table decl.locations := by
  have name (place : Location) (located : decl.location = some place) : place ∈ decl.locations :=
    List.mem_append_left _ (by simp [located])
  refine List.forall_mem_append.mpr ⟨?own, ?referred⟩
  case own => exact Shape.among_named (.decl decl.id) name
  case referred =>
    split
    next aliased targetName entity =>
      refine Question.among_single (.decl aliased) fun place located => ?_
      exact List.mem_append_right _ (by simp [entity, located])
    next shadows entity => exact Question.among_single (.candidates shadows) name
    next => exact List.forall_mem_nil _

/-- The questions of a node are about locations of it, by cases on what it is. -/
theorem Shape.among_questions (shape : Shape)
    : ∀ question ∈ shape.questions table, question.Among table (shape.locations table) := by
  have own {location : Option Location} (place : Location) (located : location = some place)
      : place ∈ location.toList := by
    simp [located]
  cases shape with
  | declaration id placeholder =>
      refine List.forall_mem_append.mpr ⟨?declared, ?deduced⟩
      case declared =>
        split
        next decl found =>
          intro question asked
          obtain ⟨sought, listed⟩ := decl.among_questions question asked
          refine ⟨sought, fun place located => List.mem_append_left _ ?_⟩
          simpa [found] using listed place located
        next => exact List.forall_mem_nil _
      case deduced =>
        split
        next location type =>
          refine Question.among_single (.type type) fun place located => ?_
          exact List.mem_append_right _ (by simp [located])
        next => exact List.forall_mem_nil _
  | declRef location name decl | memberAccess location name decl =>
      exact among_named (.decl decl) own
  | overloadRef location name candidates => exact among_named (.overloads candidates) own
  | dependentDeclRef location name | dependentMemberAccess location name =>
      exact among_named (.known (by decide)) own
  | typedefTypeRef location decl => exact Question.among_single (.decl decl) own
  | templateSpecializationRef location decl | memberInitializer location decl =>
      cases decl with
      | none => exact List.forall_mem_nil _
      | some decl => exact Question.among_single (.decl decl) own
  | tagTypeRef location type isDefinition =>
      cases isDefinition with
      | true => exact List.forall_mem_nil _
      | false => exact Question.among_single (.type type) own
  | decltypeRef location type => exact Question.among_single (.type type) own
  | dependentTypeRef location | templateParameterTypeRef location =>
      exact Question.among_single (.known (by decide)) own
  | namespaceQualifier location qualifier =>
      cases qualifier with
      | namespaceName | namespaceAlias => exact Question.among_single (.known (by decide)) own
      | _ => exact List.forall_mem_nil _

end

-----------------------------------------------------------------------------------------
-- Searches that end
-----------------------------------------------------------------------------------------

namespace DeclTable

variable {table : DeclTable}

theorem Grounded.exists_candidatesKind (grounded : table.Grounded) (candidates : List DeclId)
    : ∃ kind, table.candidatesKind candidates = .ok kind :=
  DeclTable.exists_candidatesKind fun candidate _ => grounded.exists_kindOf candidate

/-- Without cycles of typedefs all searches end. -/
theorem Sought.exists_kind {search : Except Endless (Option Kind)} (sought : table.Sought search)
    (grounded : table.Grounded)
    : ∃ kind, search = .ok kind := by
  cases sought with
  | decl id => exact grounded.exists_kindOf id
  | type type => exact grounded.exists_typeKind type
  | candidates candidates => exact grounded.exists_candidatesKind candidates
  | overloads candidates =>
      obtain ⟨kind, ended⟩ := grounded.exists_candidatesKind candidates
      exact ⟨_, by rw [ended]; rfl⟩
  | known other => exact ⟨_, rfl⟩

/-- Without cycles of typedefs a node has the occurrences that it asks for. -/
theorem Grounded.exists_occurrences (grounded : table.Grounded) (shape : Shape)
    : ∃ occurrences, shape.occurrences table = .ok occurrences :=
  Question.exists_answers fun question asked =>
    (shape.among_questions question asked).kind.exists_kind grounded

end DeclTable

/-- Without cycles of typedefs a tree has its occurrences. -/
theorem Tree.exists_occurrences {tree : Tree} (grounded : tree.decls.Grounded)
    : ∃ occurrences, tree.occurrences = .ok occurrences := by
  refine Question.exists_answers fun question asked => ?_
  obtain ⟨node, _, here⟩ := List.mem_flatMap.mp asked
  exact (node.shape.among_questions question here).kind.exists_kind grounded

-----------------------------------------------------------------------------------------
-- Kinds of macros
-----------------------------------------------------------------------------------------

theorem Kind.getD_ne_macroName {kind : Option Kind} {default : Kind}
    (own : kind ≠ some .macroName) (general : default ≠ .macroName)
    : some (kind.getD default) ≠ some .macroName := by
  cases kind with
  | none => simpa using general
  | some kind => exact own

theorem Entity.ownKind_ne_macroName (entity : Entity) : entity.ownKind ≠ some .macroName := by
  cases entity with
  | record flag | method flag => cases flag <;> simp [ownKind]
  | variableName storage => cases storage <;> simp [ownKind]
  | _ => simp [ownKind]

/-- A type is not of the kind of macros, if no declaration is. -/
theorem TypeRef.kindBy_ne_macroName {kindOf : DeclId → Except Endless (Option Kind)}
    (never : ∀ id, kindOf id ≠ .ok (some .macroName)) (type : TypeRef)
    : type.kindBy kindOf ≠ .ok (some .macroName) := by
  unfold kindBy
  split
  · nofun
  · exact never _
  · split
    · exact never _
    · nofun

/-- What may be the general kind of something is none of macros, if what is found is none. -/
theorem Kind.map_getD_ne_macroName {search : Except Endless (Option Kind)} {general : Kind}
    (never : search ≠ .ok (some .macroName)) (other : general ≠ .macroName)
    : (search.map fun kind => some (kind.getD general)) ≠ .ok (some .macroName) := by
  intro found
  obtain ⟨kind, searched, same⟩ := ok_of_map_iff.mp found
  exact getD_ne_macroName (fun own => never (own ▸ searched)) other same

namespace DeclTable

variable (table : DeclTable)

/-- What is behind wrappers is not of the kind of macros, if no other declaration is. -/
theorem kindBy_ne_macroName {kindOf : DeclId → Except Endless (Option Kind)}
    (never : ∀ id, kindOf id ≠ .ok (some .macroName)) (id : DeclId)
    : table.kindBy kindOf id ≠ .ok (some .macroName) := by
  unfold kindBy
  split
  · nofun
  next decl _ =>
    unfold Entity.kindBy
    split
    next type _ => exact Kind.map_getD_ne_macroName (type.kindBy_ne_macroName never) (by decide)
    next => exact fun own => decl.entity.ownKind_ne_macroName (Except.ok.inj own)

/-- No declaration is of the kind of macros, by induction on how many typedefs are followed. -/
theorem kindWithin_ne_macroName (typedefs : Nat) (id : DeclId)
    : table.kindWithin typedefs id ≠ .ok (some .macroName) := by
  induction typedefs generalizing id with
  | zero => nofun
  | succ typedefs ih => exact table.kindBy_ne_macroName ih id

theorem kindOf_ne_macroName (id : DeclId) : table.kindOf id ≠ .ok (some .macroName) :=
  table.kindWithin_ne_macroName _ id

theorem candidatesKind_ne_macroName (candidates : List DeclId)
    : table.candidatesKind candidates ≠ .ok (some .macroName) := by
  intro found
  obtain ⟨any, each⟩ := candidatesKind_eq_some.mp found
  obtain ⟨candidate, listed⟩ := List.exists_mem_of_ne_nil candidates any
  exact table.kindOf_ne_macroName candidate (each candidate listed)

/-- A node never asks for the kind of macros. -/
theorem Sought.ne_macroName {table : DeclTable} {search : Except Endless (Option Kind)}
    (sought : table.Sought search)
    : search ≠ .ok (some .macroName) := by
  cases sought with
  | decl id => exact table.kindOf_ne_macroName id
  | type type => exact type.kindBy_ne_macroName table.kindOf_ne_macroName
  | candidates candidates => exact table.candidatesKind_ne_macroName candidates
  | overloads candidates =>
      exact Kind.map_getD_ne_macroName (table.candidatesKind_ne_macroName candidates) (by decide)
  | known other => exact fun own => other (Option.some.inj (Except.ok.inj own))

end DeclTable

end Highlighter
