import Highlighter.Proofs.Decl.Likeness
import Highlighter.Proofs.Token.Collection
import Highlighter.Proofs.Tree.Preorder
import Highlighter.Tree.Highlights

/-! Highlights do not depend on how a tree is listed. Nodes that are the same ask the same questions
in trees of the same text, so what is found depends on the nodes that there are, not on their order,
their nesting or their ids; and collecting forgets order and repetition. The order of candidates
decides one thing only: whether a search that never ends is met at all.
-/

namespace Highlighter

variable {same : DeclId → DeclId → Prop}

-----------------------------------------------------------------------------------------
-- Collecting a set
-----------------------------------------------------------------------------------------

/-- What is collected is decided by which tokens are emitted and which ranges are macros. -/
theorem Token.collect_congr {raw others : List Token} {macros ranges : List Range}
    (tokens : ∀ token, token ∈ raw ↔ token ∈ others)
    (expansions : ∀ range, range ∈ macros ↔ range ∈ ranges)
    : collect raw macros = collect others ranges := by
  have asks (token : Token) : token ∈ asked raw macros ↔ token ∈ asked others ranges := by
    simp only [asked, List.mem_append, List.mem_map, tokens, expansions]
  have members (token : Token)
      : token ∈ collect raw macros ↔ token ∈ collect others ranges := by
    simp only [mem_collect, asks]
  have ascends := ascending_collect raw macros
  have alsoAscends := ascending_collect others ranges
  have distinct {a b : Token} (less : a.range.compare b.range = .lt) : a ≠ b := fun equal =>
    Range.ne_of_lt less (congrArg Token.range equal)
  have rearranged : (collect raw macros).Perm (collect others ranges) :=
    (List.perm_ext_iff_of_nodup (ascends.imp distinct) (alsoAscends.imp distinct)).mpr members
  refine rearranged.eq_of_pairwise (fun a b _ _ less more => ?_) ascends alsoAscends
  exact absurd more (Std.OrientedCmp.not_lt_of_lt less)

-----------------------------------------------------------------------------------------
-- Nodes that are the same
-----------------------------------------------------------------------------------------

namespace Question

variable {settled : Prop} {questions others : List Question}

/-- Two questions are about one location and do not have different answers. If all that they search
for is settled, both have an answer or neither has.
-/
structure Agrees (settled : Prop) (question other : Question) : Prop where
  location : question.location = other.location
  kind : ∀ {kind another}, question.kind = .ok kind → other.kind = .ok another → kind = another
  ended : settled → ((∃ kind, question.kind = .ok kind) ↔ ∃ kind, other.kind = .ok kind)

theorem Agrees.refl (settled : Prop) (question : Question) : question.Agrees settled question where
  location := rfl
  kind found again := Except.ok.inj (found.symm.trans again)
  ended _ := Iff.rfl

theorem Agrees.map {location : Option Location} {search another : Except Endless (Option Kind)}
    (agrees : Agrees settled ⟨location, search⟩ ⟨location, another⟩)
    (f : Option Kind → Option Kind)
    : Agrees settled ⟨location, search.map f⟩ ⟨location, another.map f⟩ where
  location := rfl
  kind found again := by
    obtain ⟨kind, searched, rfl⟩ := ok_of_map_iff.mp found
    obtain ⟨other, also, rfl⟩ := ok_of_map_iff.mp again
    rw [agrees.kind searched also]
  ended isSettled := by
    have both := agrees.ended isSettled
    simpa only [ok_of_map_iff, exists_comm, exists_and_left, exists_eq', and_true] using both

/-- Questions that agree are all answered or not, if what they search for is settled. -/
theorem Agrees.exists_iff (agree : List.Forall₂ (Agrees settled) questions others)
    (isSettled : settled)
    : (∀ question ∈ questions, ∃ kind, question.kind = .ok kind)
      ↔ ∀ other ∈ others, ∃ kind, other.kind = .ok kind := by
  induction agree with
  | nil => simp
  | cons pair _ ih => simp only [List.forall_mem_cons, pair.ended isSettled, ih]

/-- Questions that agree have the same answers, by induction over them. -/
theorem Agrees.answers_eq (agree : List.Forall₂ (Agrees settled) questions others)
    {occurrences further : List Occurrence}
    (answered : List.Forall₂ AnsweredBy questions occurrences)
    (again : List.Forall₂ AnsweredBy others further)
    : occurrences = further := by
  induction agree generalizing occurrences further with
  | nil =>
      cases answered
      cases again
      rfl
  | cons pair _ ih =>
      cases answered with
      | @cons _ occurrence _ _ here later =>
          cases again with
          | @cons _ other _ _ there beyond =>
              obtain ⟨location, kind⟩ := occurrence
              obtain ⟨elsewhere, another⟩ := other
              obtain rfl : location = elsewhere :=
                here.location.symm.trans (pair.location.trans there.location)
              obtain rfl : kind = another := pair.kind here.kind there.kind
              rw [ih later beyond]

end Question

open Question (Agrees)

/-- Names of which the same is asked ask questions that agree. -/
theorem Shape.agree_named {settled : Prop} {location : Option Location}
    {search another : Except Endless (Option Kind)} {name : DeclName}
    (agrees : name.isWritten = true → Agrees settled ⟨location, search⟩ ⟨location, another⟩)
    : List.Forall₂ (Agrees settled) (named name location search) (named name location another) := by
  unfold named
  split
  next written => exact .cons (agrees written) .nil
  next => exact .nil

theorem Question.agree_of_eq {questions others : List Question} (settled : Prop)
    (equal : questions = others)
    : List.Forall₂ (Agrees settled) questions others := by
  subst equal
  exact List.forall₂_same.mpr fun question _ => .refl settled question

namespace DeclTable.Alike

variable {table twin : DeclTable} {settled : Prop}

/-- Candidates that are the same lead to questions that agree. -/
theorem agrees_candidates (alike : table.Alike same twin) {candidates others : List DeclId}
    (elements : SameElements same candidates others) (location : Option Location)
    (ended : settled → ∀ candidate ∈ candidates, ∃ kind, table.kindOf candidate = .ok kind)
    : Agrees settled ⟨location, table.candidatesKind candidates⟩
        ⟨location, twin.candidatesKind others⟩ where
  location := rfl
  kind := alike.candidatesKind_eq elements
  ended isSettled :=
    iff_of_true (exists_candidatesKind (ended isSettled))
      (exists_candidatesKind (alike.exists_kinds elements (ended isSettled)))

/-- Declarations that are alike lead to questions that agree where they are made. -/
theorem declared (alike : table.Alike same twin) {decl twinDecl : Decl}
    (related : same decl.id twinDecl.id) (pair : decl.Alike same twinDecl)
    (ended
      : ∀ shadows,
          decl.entity = .usingList shadows
          → settled
          → ∀ candidate ∈ shadows, ∃ kind, table.kindOf candidate = .ok kind)
    : List.Forall₂ (Agrees settled) (decl.questions table) (twinDecl.questions twin) := by
  obtain ⟨id, name, location, entity⟩ := decl
  obtain ⟨twinId, twinName, twinLocation, twinEntity⟩ := twinDecl
  obtain ⟨rfl, rfl, entities⟩ := pair
  unfold Decl.questions
  dsimp only at entities related ended ⊢
  refine List.rel_append (Question.agree_of_eq settled (by rw [alike.kindOf related])) ?_
  cases entities with
  | namespaceAlias aliased targetName =>
      cases aliased with
      | none => exact .nil
      | some decl => exact Question.agree_of_eq settled (by simp only [alike.kindOf decl])
  | usingList shadows => exact .cons (alike.agrees_candidates shadows _ (ended _ rfl)) .nil
  | plain refersToNone =>
      cases entity with
      | usingShadow _ | template _ | typedef _ | namespaceAlias _ _ | usingList _ => contradiction
      | _ => exact .nil
  | usingShadow _ | template _ | typedef _ => exact .nil

/-- Ids that are the same declare what leads to questions that agree, or both nothing. -/
theorem declares (alike : table.Alike same twin) {one another : DeclId}
    (related : same one another)
    (ended
      : ∀ found shadows,
          table.find? one = some found
          → found.entity = .usingList shadows
          → settled
          → ∀ candidate ∈ shadows, ∃ kind, table.kindOf candidate = .ok kind)
    : List.Forall₂ (Agrees settled)
        (match table.find? one with
          | some found => found.questions table
          | none => [])
        (match twin.find? another with
          | some found => found.questions twin
          | none => []) := by
  have found := alike one another related
  generalize left : table.find? one = here at found ended ⊢
  generalize right : twin.find? another = there at found ⊢
  cases found with
  | none => exact .nil
  | some saying =>
      rw [← DeclTable.id_of_find? left, ← DeclTable.id_of_find? right] at related
      exact alike.declared related saying fun shadows => ended _ shadows rfl

/-- Nodes that are the same ask questions that agree. They are settled if the candidates are of
which the first node asks what they have in common.
-/
theorem questions (alike : table.Alike same twin) {shape other : Shape}
    (pair : shape.Alike same other)
    : List.Forall₂
        (Agrees (∀ candidate ∈ shape.candidates table, ∃ kind, table.kindOf candidate = .ok kind))
        (shape.questions table) (other.questions twin) := by
  cases pair with
  | plain refersToNone =>
      exact Question.agree_of_eq _ (by cases shape <;> first | contradiction | rfl)
  | @declaration one another placeholder twinPlaceholder decl stands =>
      refine List.rel_append (alike.declares decl fun found shadows there lists isSettled => ?_) ?_
      · simpa only [Shape.candidates, there, Option.map_some, lists] using isSettled
      · cases stands with
        | none => exact .nil
        | @some placeholder twinPlaceholder written =>
            obtain ⟨location, deduced⟩ := placeholder
            obtain ⟨twinLocation, twinDeduced⟩ := twinPlaceholder
            obtain ⟨rfl, types⟩ := written
            dsimp only at types ⊢
            cases types with
            | none => exact .nil
            | some type => exact Question.agree_of_eq _ (by simp only [alike.typeKind type])
  | declRef location name decl | memberAccess location name decl =>
      exact Question.agree_of_eq _ (by simp only [Shape.questions, alike.kindOf decl])
  | overloadRef location name candidates =>
      refine Shape.agree_named fun written =>
        (alike.agrees_candidates candidates location fun isSettled => ?_).map _
      simpa only [Shape.candidates, written, if_true] using isSettled
  | typedefTypeRef location decl =>
      exact Question.agree_of_eq _ (by simp only [Shape.questions, alike.kindOf decl])
  | templateSpecializationRef location template | memberInitializer location template =>
      cases template with
      | none => exact .nil
      | some decl =>
          exact Question.agree_of_eq _ (by simp only [Shape.questions, alike.kindOf decl])
  | tagTypeRef location type isDefinition =>
      exact Question.agree_of_eq _ (by simp only [Shape.questions, alike.typeKind type])
  | decltypeRef location type =>
      exact Question.agree_of_eq _ (by simp only [Shape.questions, alike.typeKind type])

end DeclTable.Alike

-----------------------------------------------------------------------------------------
-- What is literally the same
-----------------------------------------------------------------------------------------

theorem SameElements.refl {α : Type} {related : α → α → Prop} (reflexive : ∀ one, related one one)
    (elements : List α)
    : SameElements related elements elements :=
  ⟨fun one member => ⟨one, member, reflexive one⟩, fun one member => ⟨one, member, reflexive one⟩⟩

/-- A type is written like itself, by recursion through its sugar. -/
theorem TypeRef.Alike.refl : ∀ type : TypeRef, type.Alike (· = ·) type
  | .builtin name => .builtin name
  | .templateParameter none => .templateParameter .none
  | .templateParameter (some _) => .templateParameter (.some rfl)
  | .tag _ => .tag rfl
  | .sugared sugar none => .bare sugar
  | .sugared sugar (some underlying) => .sugared sugar (refl underlying)
  | .other => .other

theorem DeclId.rel_refl (decl : Option DeclId) : Option.Rel (· = ·) decl decl := by
  cases decl with
  | none => exact .none
  | some _ => exact .some rfl

theorem Entity.Alike.refl (entity : Entity) : entity.Alike (· = ·) entity := by
  cases entity with
  | usingShadow target => exact .usingShadow (DeclId.rel_refl target)
  | template templated => exact .template (DeclId.rel_refl templated)
  | namespaceAlias aliased targetName => exact .namespaceAlias (DeclId.rel_refl aliased) targetName
  | usingList shadows => exact .usingList (.refl (fun _ => rfl) shadows)
  | typedef underlying =>
      cases underlying with
      | none => exact .typedef .none
      | some type => exact .typedef (.some (.refl type))
  | _ => exact .plain rfl

theorem DeclTable.Alike.refl (table : DeclTable) : table.Alike (· = ·) table := by
  intro one another equal
  subst equal
  cases table.find? one with
  | none => exact .none
  | some decl => exact .some ⟨rfl, rfl, .refl decl.entity⟩

theorem Shape.Alike.refl (shape : Shape) : shape.Alike (· = ·) shape := by
  cases shape with
  | declaration decl placeholder =>
      refine .declaration rfl ?_
      cases placeholder with
      | none => exact .none
      | some placeholder =>
          refine .some ⟨rfl, ?_⟩
          cases placeholder.deduced with
          | none => exact .none
          | some type => exact .some (.refl type)
  | declRef location name decl => exact .declRef location name rfl
  | memberAccess location name decl => exact .memberAccess location name rfl
  | overloadRef location name candidates =>
      exact .overloadRef location name (.refl (fun _ => rfl) candidates)
  | typedefTypeRef location decl => exact .typedefTypeRef location rfl
  | templateSpecializationRef location template =>
      exact .templateSpecializationRef location (DeclId.rel_refl template)
  | tagTypeRef location type isDefinition => exact .tagTypeRef location (.refl type) isDefinition
  | decltypeRef location type => exact .decltypeRef location (.refl type)
  | memberInitializer location member => exact .memberInitializer location (DeclId.rel_refl member)
  | dependentDeclRef _ _ | dependentMemberAccess _ _ | dependentTypeRef _
  | templateParameterTypeRef _ | namespaceQualifier _ _ => exact .plain rfl

-----------------------------------------------------------------------------------------
-- Trees with the same contents
-----------------------------------------------------------------------------------------

namespace Tree

variable {tree twin : Tree}

/-- Trees over one table of declarations have the same contents if they have literally the same
nodes.
-/
theorem SameContents.of_mem (source : tree.source = twin.source)
    (decls : tree.decls = twin.decls) (nodes : ∀ shape, shape ∈ tree.shapes ↔ shape ∈ twin.shapes)
    (macros : ∀ range, range ∈ tree.macros ↔ range ∈ twin.macros)
    : SameContents (· = ·) tree twin where
  source := source
  decls := decls ▸ .refl tree.decls
  nodes :=
    ⟨fun shape member => ⟨shape, (nodes shape).mp member, .refl shape⟩,
      fun shape member => ⟨shape, (nodes shape).mpr member, .refl shape⟩⟩
  macros := macros

/-- They have each node as often if their nodes are only rearranged. -/
theorem SameCounts.of_perm (nodes : tree.shapes.Perm twin.shapes)
    : SameCounts (· = ·) tree twin :=
  ⟨tree.shapes, nodes.symm, List.forall₂_same.mpr fun shape _ => .refl shape⟩

-----------------------------------------------------------------------------------------
-- What is found in a tree
-----------------------------------------------------------------------------------------

/-- The questions of a tree are those of its nodes, each without its children. -/
theorem questions_eq (tree : Tree)
    : tree.questions = tree.shapes.flatMap (Shape.questions tree.decls) := by
  rw [questions, shapes, List.flatMap_map]

/-- A tree is highlighted if it has its occurrences, by what they lead to. -/
theorem highlights_eq_ok {found : Highlights}
    : tree.highlights = .ok found
      ↔ ∃ occurrences,
          tree.occurrences = .ok occurrences
          ∧ (let emissions := occurrences.filterMap (Emission.ofOccurrence tree.source)
            ⟨Token.collect (emissions.filterMap Emission.token?) tree.macros,
              emissions.filterMap Emission.diagnostic?⟩)
            = found := by
  simp only [highlights, walk_eq, ok_of_map_iff, Highlights.foldl_add]
  constructor
  · rintro ⟨_, ⟨occurrences, answered, rfl⟩, rfl⟩
    exact ⟨occurrences, answered, rfl⟩
  · rintro ⟨occurrences, answered, rfl⟩
    exact ⟨_, ⟨occurrences, answered, rfl⟩, rfl⟩

/-- A tree is highlighted exactly if all that its nodes search for is found. -/
theorem exists_highlights_iff (tree : Tree)
    : (∃ found, tree.highlights = .ok found)
      ↔ ∀ shape ∈ tree.shapes,
          ∀ question ∈ shape.questions tree.decls, ∃ kind, question.kind = .ok kind := by
  rw [← List.forall_mem_flatMap, ← questions_eq]
  constructor
  · rintro ⟨found, highlighted⟩ question asked
    obtain ⟨occurrences, answered, -⟩ := highlights_eq_ok.mp highlighted
    exact Question.exists_kind_of_mem (Question.answers_eq_ok.mp answered) asked
  · intro ended
    obtain ⟨occurrences, answered⟩ := Question.exists_answers ended
    exact ⟨_, highlights_eq_ok.mpr ⟨occurrences, answered, rfl⟩⟩

/-- Without cycles of typedefs a tree is settled, and it is highlighted. -/
theorem exists_highlights (grounded : tree.decls.Grounded)
    : tree.Settled ∧ ∃ found, tree.highlights = .ok found := by
  refine ⟨fun _ _ candidate _ => grounded.exists_kindOf candidate, ?_⟩
  refine tree.exists_highlights_iff.mpr fun shape _ question asked => ?_
  exact (shape.among_questions question asked).kind.exists_kind grounded

end Tree

/-- The occurrences that a node is known to have. -/
def Shape.known (table : DeclTable) (shape : Shape) : List Occurrence :=
  (shape.occurrences table).toOption.getD []

/-- Answered questions of nodes are answered by what the single nodes are known to have, by
induction over the nodes.
-/
theorem Shape.flatMap_known {table : DeclTable} {shapes : List Shape}
    {occurrences : List Occurrence}
    (answered : (shapes.flatMap (questions table)).mapM Question.answer = .ok occurrences)
    : occurrences = shapes.flatMap (known table) := by
  induction shapes generalizing occurrences with
  | nil => exact (Except.ok.inj answered).symm
  | cons shape rest ih =>
      rw [List.flatMap_cons, List.mapM_append] at answered
      obtain ⟨own, here, more⟩ := ok_of_bind_iff.mp answered
      obtain ⟨others, later, whole⟩ := ok_of_bind_iff.mp more
      have same : own = known table shape := by rw [known, Shape.occurrences, here]; rfl
      rw [← Except.ok.inj whole, List.flatMap_cons, ← ih later, same]

namespace Tree

variable {tree twin : Tree}

-----------------------------------------------------------------------------------------
-- The same in both trees
-----------------------------------------------------------------------------------------

/-- Nodes that are the same have the same occurrences in trees that are both highlighted. -/
theorem SameContents.known_eq (contents : SameContents same tree twin) {found others : Highlights}
    (highlighted : tree.highlights = .ok found) (again : twin.highlights = .ok others)
    {shape other : Shape} (member : shape ∈ tree.shapes) (present : other ∈ twin.shapes)
    (pair : shape.Alike same other)
    : shape.known tree.decls = other.known twin.decls := by
  obtain ⟨own, here⟩ :=
    Question.exists_answers (tree.exists_highlights_iff.mp ⟨found, highlighted⟩ shape member)
  obtain ⟨further, there⟩ :=
    Question.exists_answers (twin.exists_highlights_iff.mp ⟨others, again⟩ other present)
  have same : own = further :=
    Agrees.answers_eq (contents.decls.questions pair) (Question.answers_eq_ok.mp here)
      (Question.answers_eq_ok.mp there)
  rw [Shape.known, Shape.known, Shape.occurrences, Shape.occurrences, here, there, same]

/-- Two trees with the same contents have the same highlights if both are highlighted: what is
collected forgets the order of the occurrences, and diagnostics are as many as their nodes.
-/
theorem SameContents.highlights_eq (contents : SameContents same tree twin)
    {found others : Highlights} (highlighted : tree.highlights = .ok found)
    (again : twin.highlights = .ok others)
    : found.tokens = others.tokens
      ∧ (∀ place, place ∈ found.diagnostics ↔ place ∈ others.diagnostics)
      ∧ (SameCounts same tree twin → found.diagnostics.Perm others.diagnostics) := by
  have known (shape : Shape) (member : shape ∈ tree.shapes) (other : Shape)
      (present : other ∈ twin.shapes) (pair : shape.Alike same other) :=
    contents.known_eq highlighted again member present pair
  obtain ⟨occurrences, answered, rfl⟩ := highlights_eq_ok.mp highlighted
  obtain ⟨further, alsoAnswered, rfl⟩ := highlights_eq_ok.mp again
  rw [Tree.occurrences, questions_eq] at answered alsoAnswered
  obtain rfl := Shape.flatMap_known answered
  obtain rfl := Shape.flatMap_known alsoAnswered
  have members := contents.nodes.mem_flatMap_iff known
  rw [← contents.source]
  refine ⟨?_, fun place => ?_, ?_⟩
  · refine Token.collect_congr (fun token => ?_) contents.macros
    simp only [List.mem_filterMap, members]
  · simp only [List.mem_filterMap, members]
  · rintro ⟨rearranged, order, pairs⟩
    have alike
        : tree.shapes.flatMap (Shape.known tree.decls)
          = rearranged.flatMap (Shape.known twin.decls) := by
      have inside : ∀ other ∈ rearranged, other ∈ twin.shapes := fun _ => order.mem_iff.mpr
      generalize tree.shapes = shapes at pairs known
      clear order
      induction pairs with
      | nil => rfl
      | cons pair _ ih =>
          rw [List.forall_mem_cons] at known inside
          rw [List.flatMap_cons, List.flatMap_cons, known.1 _ inside.1 pair,
            ih inside.2 known.2]
    rw [alike]
    exact (((order.flatMap_right _).symm.filterMap _).filterMap _)

/-- If a tree is settled, it is highlighted exactly if another one with the same contents is. -/
theorem SameContents.exists_highlights_iff (contents : SameContents same tree twin)
    (settled : tree.Settled)
    : (∃ found, tree.highlights = .ok found) ↔ ∃ others, twin.highlights = .ok others := by
  rw [tree.exists_highlights_iff, twin.exists_highlights_iff]
  exact contents.nodes.forall_iff fun shape member other _ pair =>
    Agrees.exists_iff (contents.decls.questions pair) (settled shape member)

end Tree

end Highlighter
