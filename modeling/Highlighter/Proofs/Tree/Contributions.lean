import Highlighter.Proofs.Source.Measurement
import Highlighter.Proofs.Tree.Preorder

/-! The highlights of a tree balance: a node asks the questions that the rules say, each occurrence
that answers one and counts contributes one token or one diagnostic, and nothing else is found. A
visit adds what the occurrences of its node contribute to what is found already, and so does a walk
with those of all nodes; where a place starts no token makes no difference to the others.
-/

namespace Highlighter

-----------------------------------------------------------------------------------------
-- Single occurrences
-----------------------------------------------------------------------------------------

namespace Occurrence

variable {source : Source} {occurrence : Occurrence} {occurrences front back : List Occurrence}
  {kind : Kind} {place : FileLocation} {found : Highlights}

/-- An occurrence is of one kind and at one place. -/
theorem StandsAt.unique {other : Kind} {elsewhere : FileLocation}
    (stands : occurrence.StandsAt source kind place)
    (again : occurrence.StandsAt source other elsewhere)
    : other = kind ∧ elsewhere = place := by
  obtain ⟨kinded, written, _⟩ := stands
  obtain ⟨alsoKinded, alsoWritten, _⟩ := again
  have sameKind : other = kind := Option.some.inj (alsoKinded.symm.trans kinded)
  refine ⟨sameKind, ?_⟩
  rcases written with written | written
  all_goals
    rw [written] at alsoWritten
    simpa [eq_comm] using alsoWritten

/-- Where an occurrence stands, it leads to what its place starts or to a diagnostic. -/
theorem ofOccurrence_stands (stands : occurrence.StandsAt source kind place)
    : Emission.ofOccurrence source occurrence
      = match source.tokenRange place.position with
        | some range => some (.token (.ofKind kind range))
        | none => some (.diagnostic place) := by
  obtain ⟨location, own⟩ := occurrence
  obtain ⟨rfl, rfl | rfl, inside⟩ := stands
  all_goals exact if_pos inside

/-- An occurrence that does not count leads to nothing. -/
theorem ofOccurrence_idle (idle : ¬ occurrence.Stands source)
    : Emission.ofOccurrence source occurrence = none := by
  obtain ⟨location, kind⟩ := occurrence
  match location, kind with
  | some location, some kind =>
      refine Option.bind_eq_none_iff.mpr fun place written => if_neg fun inside => idle ?_
      exact stands_iff.mpr ⟨kind, rfl, location, rfl, place, written, inside⟩
  | none, _ | some location, none => rfl

-----------------------------------------------------------------------------------------
-- Contributions
-----------------------------------------------------------------------------------------

/-- Occurrences contribute what they lead to, by induction on their list. -/
theorem contribute_emissions (source : Source) (occurrences : List Occurrence)
    : Contribute source occurrences
        ((occurrences.filterMap (Emission.ofOccurrence source)).foldl Highlights.add .empty) := by
  rw [Highlights.foldl_add]
  induction occurrences with
  | nil => exact .done
  | cons occurrence rest ih =>
      rw [List.filterMap_cons]
      by_cases stands : occurrence.Stands source
      · obtain ⟨kind, place, stands⟩ := stands
        rw [ofOccurrence_stands stands]
        cases measured : source.tokenRange place.position with
        | some range => exact .token stands measured ih
        | none => exact .diagnostic stands measured ih
      · rw [ofOccurrence_idle stands]
        exact .nothing stands ih

/-- Occurrences contribute in one way only, by induction on that way. -/
theorem Contribute.unique {other : Highlights} (contribute : Contribute source occurrences found)
    (again : Contribute source occurrences other)
    : other = found := by
  induction contribute generalizing other with
  | done =>
      cases again
      rfl
  | token stands measured others ih =>
      cases again with
      | token alsoStands alsoMeasured others =>
          obtain ⟨rfl, rfl⟩ := stands.unique alsoStands
          rw [Option.some.inj (alsoMeasured.symm.trans measured), ih others]
      | diagnostic alsoStands unmeasured others =>
          obtain ⟨rfl, rfl⟩ := stands.unique alsoStands
          simp [measured] at unmeasured
      | nothing idle others => exact absurd ⟨_, _, stands⟩ idle
  | diagnostic stands unmeasured others ih =>
      cases again with
      | token alsoStands measured others =>
          obtain ⟨rfl, rfl⟩ := stands.unique alsoStands
          simp [unmeasured] at measured
      | diagnostic alsoStands _ others =>
          obtain ⟨rfl, rfl⟩ := stands.unique alsoStands
          rw [ih others]
      | nothing idle others => exact absurd ⟨_, _, stands⟩ idle
  | nothing idle others ih =>
      cases again with
      | token stands _ others | diagnostic stands _ others => exact absurd ⟨_, _, stands⟩ idle
      | nothing _ others => exact ih others

/-- Two lists of occurrences contribute one after the other. -/
theorem Contribute.append {later : Highlights} (first : Contribute source front found)
    (second : Contribute source back later)
    : Contribute source (front ++ back) (found.followedBy later) := by
  induction first with
  | done => exact second
  | token stands measured others ih => exact .token stands measured ih
  | diagnostic stands unmeasured others ih => exact .diagnostic stands unmeasured ih
  | nothing idle others ih => exact .nothing idle ih

/-- Each occurrence that counts contributes one token or one diagnostic. -/
theorem Contribute.length (contribute : Contribute source occurrences found)
    : found.tokens.length + found.diagnostics.length
      = occurrences.countP fun occurrence => occurrence.Stands source := by
  induction contribute with
  | done => rfl
  | token stands measured others ih =>
      rw [List.countP_cons_of_pos (by simpa using ⟨_, _, stands⟩), ← ih]
      simp only [List.length_cons]
      omega
  | diagnostic stands unmeasured others ih =>
      rw [List.countP_cons_of_pos (by simpa using ⟨_, _, stands⟩), ← ih]
      simp only [List.length_cons]
      omega
  | nothing idle others ih => rw [List.countP_cons_of_neg (by simpa using idle), ih]

/-- A token is contributed by an occurrence at whose place it starts. -/
theorem Contribute.token_of_mem (contribute : Contribute source occurrences found)
    : ∀ token ∈ found.tokens,
        ∃ occurrence ∈ occurrences,
          ∃ kind place range,
            occurrence.StandsAt source kind place
            ∧ source.tokenRange place.position = some range
            ∧ token = .ofKind kind range := by
  induction contribute with
  | done => nofun
  | token stands measured others ih =>
      refine List.forall_mem_cons.mpr ⟨⟨_, List.mem_cons_self, _, _, _, stands, measured, rfl⟩, ?_⟩
      intro token member
      obtain ⟨occurrence, listed, made⟩ := ih token member
      exact ⟨occurrence, List.mem_cons_of_mem _ listed, made⟩
  | diagnostic stands unmeasured others ih | nothing idle others ih =>
      intro token member
      obtain ⟨occurrence, listed, made⟩ := ih token member
      exact ⟨occurrence, List.mem_cons_of_mem _ listed, made⟩

/-- A diagnostic is contributed by an occurrence at whose place no token starts. -/
theorem Contribute.diagnostic_of_mem (contribute : Contribute source occurrences found)
    : ∀ place ∈ found.diagnostics,
        ∃ occurrence ∈ occurrences,
          ∃ kind,
            occurrence.StandsAt source kind place ∧ source.tokenRange place.position = none := by
  induction contribute with
  | done => nofun
  | diagnostic stands unmeasured others ih =>
      refine List.forall_mem_cons.mpr ⟨⟨_, List.mem_cons_self, _, stands, unmeasured⟩, ?_⟩
      intro place member
      obtain ⟨occurrence, listed, made⟩ := ih place member
      exact ⟨occurrence, List.mem_cons_of_mem _ listed, made⟩
  | token stands measured others ih | nothing idle others ih =>
      intro place member
      obtain ⟨occurrence, listed, made⟩ := ih place member
      exact ⟨occurrence, List.mem_cons_of_mem _ listed, made⟩

end Occurrence

-----------------------------------------------------------------------------------------
-- Rules by which a node asks
-----------------------------------------------------------------------------------------

theorem Kind.ordinal_le {kind : Kind} (other : kind ≠ .macroName) : kind.ordinal ≤ 16 := by
  cases kind with
  | macroName => contradiction
  | _ => decide

/-- Without cycles of typedefs the kind that candidates have in common is the one that is found. -/
theorem DeclTable.Grounded.common_iff {table : DeclTable} (grounded : table.Grounded)
    {candidates : List DeclId} {kind : Option Kind}
    : table.Common candidates kind ↔ table.candidatesKind candidates = .ok kind := by
  refine ⟨fun common => ?_, common_of_candidatesKind⟩
  obtain ⟨other, ended⟩ := grounded.exists_candidatesKind candidates
  rw [ended, (common_of_candidatesKind ended).unique common]

namespace Question

variable {reasons others : List Reason} {asks former latter : Reason → Question → Prop}
  {reason : Reason} {question : Question} {front back : List Question}

theorem AskedBy.none (never : ∀ reason question, ¬ asks reason question)
    : AskedBy reasons asks [] :=
  ⟨[], List.nil_sublist _, rfl, fun reason question => by simp [never]⟩

theorem AskedBy.single
    (only : ∀ other another, asks other another ↔ other = reason ∧ another = question)
    : AskedBy [reason] asks [question] :=
  ⟨[reason], .refl _, rfl, fun other another => by simp [only]⟩

/-- For reasons that apply one after another questions are asked one after another. -/
theorem AskedBy.append (first : AskedBy reasons former front) (second : AskedBy others latter back)
    (either : ∀ reason question, asks reason question
      ↔ former reason question ∨ latter reason question)
    : AskedBy (reasons ++ others) asks (front ++ back) := by
  obtain ⟨own, within, same, listed⟩ := first
  obtain ⟨further, below, alike, found⟩ := second
  refine ⟨own ++ further, within.append below, by simp [same, alike], fun reason question => ?_⟩
  rw [List.zip_append same, List.mem_append, ← listed, ← found, either]

theorem AskedBy.sublist (asked : AskedBy reasons asks front) (within : reasons.Sublist others)
    : AskedBy others asks front := by
  obtain ⟨own, below, rest⟩ := asked
  exact ⟨own, below.trans within, rest⟩

end Question

namespace Shape

open Question (AskedBy Reason)

variable {table : DeclTable}

/-- A declaration asks in four ways. -/
theorem asks_declaration (grounded : table.Grounded) {id : DeclId}
    {placeholder : Option Placeholder} {decl : Decl} (found : table.find? id = some decl)
    {reason : Reason} {question : Question}
    : Asks table (.declaration id placeholder) reason question
      ↔ (reason = .declared
          ∧ decl.name.isWritten = true
          ∧ question = ⟨decl.location, table.kindOf decl.id⟩)
        ∨ (∃ aliased targetName,
            reason = .aliased
            ∧ decl.entity = .namespaceAlias (some aliased) targetName
            ∧ question = ⟨targetName, table.kindOf aliased⟩)
        ∨ (∃ shadows,
            reason = .listed
            ∧ decl.entity = .usingList shadows
            ∧ question = ⟨decl.location, table.candidatesKind shadows⟩)
        ∨ ∃ location type,
            reason = .deduced
            ∧ placeholder = some ⟨location, some type⟩
            ∧ question = ⟨location, table.typeKind type⟩ := by
  obtain rfl : decl.id = id := DeclTable.id_of_find? found
  constructor
  · intro asks
    cases asks with
    | declared again written =>
        cases found.symm.trans again
        exact .inl ⟨rfl, written, rfl⟩
    | aliased again renames =>
        cases found.symm.trans again
        exact .inr (.inl ⟨_, _, rfl, renames, rfl⟩)
    | listed again lists common =>
        cases found.symm.trans again
        rw [← grounded.common_iff.mp common]
        exact .inr (.inr (.inl ⟨_, rfl, lists, rfl⟩))
    | deduced => exact .inr (.inr (.inr ⟨_, _, rfl, rfl, rfl⟩))
  · rintro (⟨rfl, written, rfl⟩ | ⟨_, _, rfl, renames, rfl⟩ | ⟨_, rfl, lists, rfl⟩
      | ⟨_, _, rfl, rfl, rfl⟩)
    · exact .declared found written
    · exact .aliased found renames
    · obtain ⟨kind, ended⟩ := grounded.exists_candidatesKind _
      rw [ended]
      exact .listed found lists (grounded.common_iff.mpr ended)
    · exact .deduced

/-- A declaration asks about its name, and about what an alias or a using declaration refers to. -/
theorem askedBy_declared (grounded : table.Grounded) {id : DeclId}
    (placeholder : Option Placeholder) {decl : Decl} (found : table.find? id = some decl)
    : AskedBy ([.declared] ++ [.aliased, .listed])
        (fun reason question =>
          reason ≠ .deduced ∧ Asks table (.declaration id placeholder) reason question)
        (decl.questions table) := by
  have own
      : AskedBy [.declared]
          (fun reason question =>
            reason = .declared ∧ Asks table (.declaration id placeholder) reason question)
          (named decl.name decl.location (table.kindOf decl.id)) := by
    unfold named
    split
    next written =>
      refine .single fun reason question => and_congr_right fun same => ?_
      simp [asks_declaration grounded found, same, written]
    next unwritten =>
      refine .none fun reason question asks => ?_
      simp [asks_declaration grounded found, asks.1, unwritten] at asks
  refine own.append
    (?referred
      : AskedBy [.aliased, .listed]
          (fun reason question =>
            (reason = .aliased ∨ reason = .listed)
            ∧ Asks table (.declaration id placeholder) reason question)
          _)
    fun reason question => ?either
  case referred =>
    split
    next aliased targetName renames =>
      refine (AskedBy.single fun reason question => ?_).sublist
        (List.sublist_append_left [Reason.aliased] [.listed])
      cases reason <;> simp [asks_declaration grounded found, renames]
    next shadows lists =>
      refine (AskedBy.single fun reason question => ?_).sublist
        (List.sublist_append_right [Reason.aliased] [.listed])
      cases reason <;> simp [asks_declaration grounded found, lists]
    next noAlias noList =>
      refine .none fun reason question asks => ?_
      rcases (asks_declaration grounded found).mp asks.2 with ⟨rfl, _⟩ | ⟨_, _, _, renames, _⟩
        | ⟨_, _, lists, _⟩ | ⟨_, _, rfl, _⟩
      · simp at asks
      · exact noAlias _ _ renames
      · exact noList _ lists
      · simp at asks
  case either => cases reason <;> simp [asks_declaration grounded found]

/-- The node of a declaration asks nothing else, but about its placeholder. -/
theorem askedBy_made (grounded : table.Grounded) (id : DeclId) (placeholder : Option Placeholder)
    : AskedBy [.declared, .aliased, .listed]
        (fun reason question =>
          reason ≠ .deduced ∧ Asks table (.declaration id placeholder) reason question)
        (match table.find? id with
        | some decl => decl.questions table
        | none => []) := by
  split
  next decl found => exact askedBy_declared grounded placeholder found
  next missing =>
    refine .none fun reason question asks => ?_
    obtain ⟨other, asks⟩ := asks
    cases asks with
    | declared found _ | aliased found _ | listed found _ _ => simp [missing] at found
    | deduced => contradiction

theorem askedBy_deduced (table : DeclTable) (id : DeclId) (placeholder : Option Placeholder)
    : AskedBy [.deduced]
        (fun reason question =>
          reason = .deduced ∧ Asks table (.declaration id placeholder) reason question)
        (match placeholder with
        | some ⟨location, some type⟩ => [⟨location, table.typeKind type⟩]
        | _ => []) := by
  split
  next location type =>
    refine .single fun reason question => ⟨?_, ?_⟩
    · rintro ⟨rfl, asks⟩
      cases asks
      exact ⟨rfl, rfl⟩
    · rintro ⟨rfl, rfl⟩
      exact ⟨rfl, .deduced⟩
  next empty =>
    refine .none ?_
    rintro _ question ⟨rfl, asks⟩
    cases asks with
    | deduced => exact empty _ _ rfl

/-- A node that mentions something asks one question. -/
theorem askedBy_mention {shape : Shape} {question : Question}
    (asks : shape.Asks table .mentioned question)
    (only
      : ∀ reason other,
          shape.Asks table reason other → reason = .mentioned ∧ other = question)
    : AskedBy Reason.all (shape.Asks table) [question] := by
  refine (AskedBy.single fun reason other => ⟨only reason other, ?_⟩).sublist
    (List.sublist_append_right [Reason.declared, .aliased, .listed, .deduced] [.mentioned])
  rintro ⟨rfl, rfl⟩
  exact asks

/-- A node that names something asks one question, if the name is written. -/
theorem askedBy_named {shape : Shape} {name : DeclName} {location : Option Location}
    {kind : Except Endless (Option Kind)}
    (asks : name.isWritten = true → shape.Asks table .mentioned ⟨location, kind⟩)
    (only
      : ∀ reason other,
          shape.Asks table reason other
          → name.isWritten = true ∧ reason = .mentioned ∧ other = ⟨location, kind⟩)
    : AskedBy Reason.all (shape.Asks table) (named name location kind) := by
  unfold named
  split
  next written => exact askedBy_mention (asks written) fun _ _ other => (only _ _ other).2
  next unwritten => exact .none fun _ _ other => unwritten (only _ _ other).1

/-- A node asks the questions that the rules say, by cases on what it is. -/
theorem askedBy (grounded : table.Grounded) (shape : Shape)
    : AskedBy Reason.all (shape.Asks table) (shape.questions table) := by
  cases shape with
  | declaration id placeholder =>
      have made := askedBy_made grounded id placeholder
      have both := made.append (askedBy_deduced table id placeholder) fun reason question => by
        show Asks table (.declaration id placeholder) reason question ↔ _
        by_cases same : reason = .deduced <;> simp [same]
      exact both.sublist (List.sublist_append_left _ [Reason.mentioned])
  | declRef location name decl | memberAccess location name decl =>
      refine askedBy_named (fun written => by constructor; exact written) fun _ _ asks => ?_
      cases asks
      exact ⟨by assumption, rfl, rfl⟩
  | dependentDeclRef location name | dependentMemberAccess location name =>
      refine askedBy_named (fun written => by constructor; exact written) fun _ _ asks => ?_
      cases asks
      exact ⟨by assumption, rfl, rfl⟩
  | overloadRef location name candidates =>
      obtain ⟨kind, ended⟩ := grounded.exists_candidatesKind candidates
      rw [questions, ended]
      refine askedBy_named
        (fun written => .overloadRef written (grounded.common_iff.mpr ended)) ?_
      intro _ _ asks
      cases asks with
      | overloadRef written common =>
          obtain rfl := Except.ok.inj (ended.symm.trans (grounded.common_iff.mp common))
          exact ⟨written, rfl, rfl⟩
  | templateSpecializationRef location decl | memberInitializer location decl =>
      cases decl with
      | none => exact .none fun _ _ asks => by cases asks
      | some decl =>
          refine askedBy_mention (by constructor) fun _ _ asks => ?_
          cases asks
          exact ⟨rfl, rfl⟩
  | tagTypeRef location type isDefinition =>
      cases isDefinition with
      | true => exact .none fun _ _ asks => by cases asks
      | false =>
          refine askedBy_mention .tagTypeRef fun _ _ asks => ?_
          cases asks
          exact ⟨rfl, rfl⟩
  | namespaceQualifier location qualifier =>
      cases qualifier with
      | namespaceName | namespaceAlias =>
          refine askedBy_mention (.namespaceQualifier (by simp)) fun _ _ asks => ?_
          cases asks
          exact ⟨rfl, rfl⟩
      | _ => exact .none fun _ _ asks => by cases asks; simp_all
  | typedefTypeRef location decl | decltypeRef location decl =>
      refine askedBy_mention (by constructor) fun _ _ asks => ?_
      cases asks
      exact ⟨rfl, rfl⟩
  | dependentTypeRef location | templateParameterTypeRef location =>
      refine askedBy_mention (by constructor) fun _ _ asks => ?_
      cases asks
      exact ⟨rfl, rfl⟩

end Shape

-----------------------------------------------------------------------------------------
-- Walking a tree
-----------------------------------------------------------------------------------------

/-- A visit adds what the occurrences of its node contribute, at any time of a walk. -/
theorem Walker.contribute_step {tree : Tree} {walker : Walker} {node : Node}
    {result : Except Endless Walker} (step : walker.step? tree = some (node, result))
    {own : List Occurrence} (answered : node.shape.occurrences tree.decls = .ok own)
    : ∃ after here,
        result = .ok after
        ∧ Occurrence.Contribute tree.source own here
        ∧ after.found = walker.found.followedBy here := by
  obtain ⟨top, _, same⟩ := Option.map_eq_some_iff.mp step
  cases same
  rw [Highlights.visit_of_occurrences answered]
  refine ⟨_, _, rfl, Occurrence.contribute_emissions tree.source own, ?_⟩
  rw [Highlights.foldl_add, Highlights.foldl_add]
  rfl

namespace Tree

variable {tree : Tree} {occurrences : List Occurrence} {found : Highlights}

/-- A tree has been walked if it has its occurrences, and they contribute what has been found. -/
theorem exists_occurrences_of_walk (walked : tree.walk = .ok found)
    : ∃ occurrences,
        tree.occurrences = .ok occurrences
        ∧ Occurrence.Contribute tree.source occurrences found := by
  rw [walk_eq] at walked
  obtain ⟨occurrences, answered, rfl⟩ := ok_of_map_iff.mp walked
  exact ⟨occurrences, answered, Occurrence.contribute_emissions tree.source occurrences⟩

/-- Where an occurrence of a tree stands is a place of the tree, and its kind is not that of macros.
-/
theorem hasPlace_of_stands (answered : tree.occurrences = .ok occurrences)
    {occurrence : Occurrence} (asked : occurrence ∈ occurrences) {kind : Kind}
    {place : FileLocation} (stands : occurrence.StandsAt tree.source kind place)
    : tree.HasPlace place ∧ kind ≠ .macroName := by
  obtain ⟨question, posed, answer⟩ :=
    Question.exists_question_of_mem (Question.answers_eq_ok.mp answered) asked
  obtain ⟨node, visited, here⟩ := List.mem_flatMap.mp posed
  obtain ⟨sought, listed⟩ := node.shape.among_questions question here
  refine ⟨⟨stands.inside, node, visited, ?_⟩, ?_⟩
  · rcases stands.written with written | written
    · exact ⟨_, listed _ (answer.location.trans written), .inl rfl⟩
    · exact ⟨_, listed _ (answer.location.trans written), .inr rfl⟩
  · rintro rfl
    exact sought.ne_macroName (answer.kind.trans (congrArg Except.ok stands.kinded))

/-- What is found in a tree is accounted for by its occurrences, if no typedef leads back to itself.
-/
theorem walk_accounted (grounded : tree.decls.Grounded)
    : ∃ occurrences found, tree.Accounted occurrences found := by
  obtain ⟨found, walked⟩ := exists_walk grounded
  obtain ⟨occurrences, answered, contribute⟩ := exists_occurrences_of_walk walked
  obtain ⟨visited, visits, -, whole⟩ := tree.exists_visits
  obtain rfl := whole _ walked
  rw [walked] at visits
  refine ⟨occurrences, found, ?_⟩
  constructor
  case kinds => exact grounded.exists_classifies
  case asked => exact Shape.askedBy grounded
  case answered =>
    intro shape
    obtain ⟨own, ended⟩ := grounded.exists_occurrences shape
    exact ⟨own, ended, Question.answers_eq_ok.mp ended⟩
  case all => exact ⟨answered, Question.answers_eq_ok.mp answered⟩
  case once =>
    intro occurrences
    have contribute := Occurrence.contribute_emissions tree.source occurrences
    exact ⟨_, fun other => ⟨contribute.unique, fun same => same ▸ contribute⟩⟩
  case visit =>
    intro walker node result step
    obtain ⟨own, ended⟩ := grounded.exists_occurrences node.shape
    obtain ⟨after, here, rfl, contribute, added⟩ := Walker.contribute_step step ended
    exact ⟨after, own, here, rfl, ended, contribute, added⟩
  case walk =>
    intro nodes result
    constructor
    · intro other
      obtain ⟨rfl, rfl⟩ := visits.unique other
      exact ⟨rfl, found, rfl, contribute⟩
    · rintro ⟨rfl, other, rfl, again⟩
      rw [contribute.unique again]
      exact visits
  case whole => exact ⟨walked, contribute⟩
  case balance => exact contribute.length
  case tokens =>
    intro token member
    obtain ⟨occurrence, asked, kind, place, range, stands, measured, rfl⟩ :=
      contribute.token_of_mem token member
    obtain ⟨hasPlace, other⟩ := hasPlace_of_stands answered asked stands
    obtain ⟨line, column, text, stop, position, there, token, rfl⟩ :=
      Source.exists_tokenAt measured
    exact ⟨⟨place, hasPlace, measured, position.symm⟩,
      ⟨line, column, stop, text, there, token.nonempty, token.inside, rfl⟩,
      Int.natCast_nonneg _, Int.ofNat_le.mpr (Kind.ordinal_le other)⟩
  case diagnostics =>
    intro place member
    obtain ⟨occurrence, asked, kind, stands, unmeasured⟩ :=
      contribute.diagnostic_of_mem place member
    exact ⟨(hasPlace_of_stands answered asked stands).1, unmeasured⟩
  case undisturbed =>
    intro front occurrence back kind place split stands unmeasured
    have before := Occurrence.contribute_emissions tree.source front
    have after := Occurrence.contribute_emissions tree.source back
    refine ⟨_, _, before, after, before.append after, ?_⟩
    have whole := before.append (.diagnostic stands unmeasured after)
    rw [← split] at whole
    exact whole.unique contribute

/-- A tree with occurrences of every sort: two of a namespace alias, one of a using declaration and
one of a placeholder there, at white space, in a macro's argument, in the rest of a macro, in
another file, and without a kind.
-/
def sundry : Tree where
  source := .ofText "main.cpp" "alias target using auto x"
  nodes := [
    .mk (.declaration "alias" none) none,
    .mk (.declaration "using"
      (some ⟨some (.file ⟨"main.cpp", ⟨0, 19⟩⟩), some (.builtin "int")⟩)) none,
    .mk (.dependentTypeRef (some (.file ⟨"main.cpp", ⟨0, 5⟩⟩))) none,
    .mk (.dependentTypeRef (some (.expansion true ⟨"main.cpp", ⟨0, 24⟩⟩))) none,
    .mk (.dependentTypeRef (some (.expansion false ⟨"main.cpp", ⟨0, 24⟩⟩))) none,
    .mk (.dependentTypeRef (some (.file ⟨"other.hpp", ⟨0, 24⟩⟩))) none,
    .mk (.typedefTypeRef (some (.file ⟨"main.cpp", ⟨0, 24⟩⟩)) "lambda") none]
  macros := []
  decls := ⟨[
    ⟨"target", ⟨.identifier, "target"⟩, none, .namespaceName⟩,
    ⟨"alias", ⟨.identifier, "alias"⟩, some (.file ⟨"main.cpp", ⟨0, 0⟩⟩),
      .namespaceAlias (some "target") (some (.file ⟨"main.cpp", ⟨0, 6⟩⟩))⟩,
    ⟨"using", ⟨.identifier, "using"⟩, some (.file ⟨"main.cpp", ⟨0, 13⟩⟩), .usingList ["target"]⟩,
    ⟨"lambda", ⟨.identifier, ""⟩, none, .record true⟩]⟩

/-- Ten questions are asked there: five answers lead to tokens, and one to a diagnostic. -/
theorem walk_accounted_sundry
    : sundry.decls.Grounded
      ∧ (∃ occurrences found, sundry.Accounted occurrences found ∧ occurrences.length = 10)
      ∧ sundry.walk
        = .ok
            ⟨[.ofKind .namespaceName (.between 0 0 0 5), .ofKind .namespaceName (.between 0 6 0 12),
              .ofKind .namespaceName (.between 0 13 0 18), .ofKind .primitive (.between 0 19 0 23),
              .ofKind .dependentType (.between 0 24 0 25)], [⟨"main.cpp", ⟨0, 5⟩⟩]⟩ := by
  have grounded : sundry.decls.Grounded := DeclTable.grounded_of_rank (fun _ => 0) (by decide)
  obtain ⟨occurrences, found, accounted⟩ := walk_accounted grounded
  refine ⟨grounded, ⟨occurrences, found, accounted, ?_⟩, by decide +kernel⟩
  rw [← accounted.all.2.length_eq]
  decide +kernel

end Tree

end Highlighter
