import Highlighter.Proofs.Document.Agreement
import Highlighter.Proofs.Service.Canonicity
import Highlighter.Proofs.Tree.Contributions

/-! Only macros overflow. What a node mentions stands on a line of the text, so records can hold its
column if lines are not too long, and they can hold every kind and every wrapped length. A macro's
range is wherever it was declared: a changed line with one that starts beyond the last column that a
record can hold is all that cannot be encoded.
-/

namespace Highlighter

-----------------------------------------------------------------------------------------
-- Faults
-----------------------------------------------------------------------------------------

namespace Payload

variable {fault : Overflow} {token : Token}

/-- A field overflows with its limit and the value, by cases on the sign. -/
theorem field_eq_error {limit : Nat} {value : Int}
    : field limit value = .error fault
      ↔ ¬ (0 ≤ value ∧ value ≤ limit) ∧ fault = ⟨limit, value⟩ := by
  cases value with
  | ofNat n => by_cases small : n ≤ limit <;> simp [field, small, eq_comm]
  | negSucc n =>
      have negative : ¬ 0 ≤ Int.negSucc n := by omega
      simp [field, negative, eq_comm]

/-- A token whose kind can be held has a record unless its start column overflows. -/
theorem record_eq_error (known : 0 ≤ token.kind ∧ token.kind ≤ 65535)
    : record token = .error fault
      ↔ ¬ token.Fits ∧ fault = ⟨4294967295, token.range.start.character⟩ := by
  have held : ¬ field 65535 token.kind = .error fault := fun overflow =>
    (field_eq_error.mp overflow).1 known
  have column : token.Fits
      ↔ 0 ≤ token.range.start.character ∧ token.range.start.character ≤ (4294967295 : Nat) :=
    ⟨Token.Fits.character, fun character => ⟨character, known⟩⟩
  simp only [record, error_of_bind_iff, pure, Except.pure, reduceCtorEq, and_false, exists_false,
    or_false, held, field_eq_error, column]

theorem records_cons_eq_error {token : Token} {rest : List Token}
    : records (token :: rest) = .error fault
      ↔ record token = .error fault ∨ token.Fits ∧ records rest = .error fault := by
  simp only [records, error_of_bind_iff, pure, Except.pure, reduceCtorEq, and_false, exists_false,
    or_false, exists_and_right, exists_record]

/-- Tokens overflow at the first one that has no record, by induction over them. -/
theorem records_eq_error {tokens : List Token}
    : records tokens = .error fault
      ↔ ∃ front token back,
          tokens = front ++ token :: back
          ∧ (∀ other ∈ front, other.Fits)
          ∧ record token = .error fault := by
  induction tokens with
  | nil => simp [records]
  | cons first rest ih =>
      rw [records_cons_eq_error, ih]
      constructor
      · rintro (here | ⟨fits, front, token, back, rfl, before, failed⟩)
        · exact ⟨[], first, rest, rfl, List.forall_mem_nil _, here⟩
        · exact ⟨first :: front, token, back, rfl, List.forall_mem_cons.mpr ⟨fits, before⟩, failed⟩
      · rintro ⟨front, token, back, whole, before, failed⟩
        cases front with
        | nil =>
            obtain ⟨rfl, rfl⟩ := List.cons.inj whole
            exact .inl failed
        | cons other front =>
            obtain ⟨rfl, rfl⟩ := List.cons.inj whole
            obtain ⟨fits, before⟩ := List.forall_mem_cons.mp before
            exact .inr ⟨fits, front, token, back, rfl, before, failed⟩

theorem records_append_eq_error {front back : List Token}
    : records (front ++ back) = .error fault
      ↔ records front = .error fault
        ∨ (∀ token ∈ front, token.Fits) ∧ records back = .error fault := by
  induction front with
  | nil => simp [records]
  | cons token rest ih =>
      rw [List.cons_append, records_cons_eq_error, ih, records_cons_eq_error, List.forall_mem_cons,
        and_or_left, or_assoc, and_assoc]

end Payload

/-- Lines overflow as all of their tokens do one after the other, by induction over the lines. -/
theorem EncodedLine.ofLines_eq_error {lines : List Line} {fault : Overflow}
    : ofLines lines = .error fault
      ↔ Payload.records (lines.flatMap Line.tokens) = .error fault := by
  induction lines with
  | nil => simp [ofLines, Payload.records]
  | cons line rest ih =>
      have failed : ofLine line = .error fault ↔ Payload.records line.tokens = .error fault := by
        simp [ofLine, Payload.encode, error_of_bind_iff, pure, Except.pure]
      have encoded : (∃ first, ofLine line = .ok first) ↔ ∀ token ∈ line.tokens, token.Fits := by
        rw [← Payload.exists_encode]
        simp [ofLine, ok_of_bind_iff, pure, Except.pure]
      rw [List.flatMap_cons, Payload.records_append_eq_error, ← ih, ← failed, ← encoded]
      simp only [ofLines, error_of_bind_iff, pure, Except.pure, reduceCtorEq, and_false,
        exists_false, or_false, exists_and_right]

-----------------------------------------------------------------------------------------
-- Highlights
-----------------------------------------------------------------------------------------

/-- Every line of a source has less than 2^32 units. -/
def Source.Narrow (source : Source) : Prop :=
  ∀ line ∈ source.lines, Text.length16 line < 4294967296

/-- A macro starts beyond the last column that a record can hold. -/
structure Token.Oversized (token : Token) : Prop where
  kind : token.kind = Kind.macroName.ordinal
  character : 4294967295 < token.range.start.character

theorem Token.Oversized.not_fits {token : Token} (oversized : token.Oversized) : ¬ token.Fits := by
  intro fits
  have least := oversized.character
  have most := fits.character.2
  omega

/-- A measured range starts on a line, before its end. -/
theorem Source.Measures.character_le {source : Source} {range : Range}
    (measured : source.Measures range) (narrow : source.Narrow)
    : range.start.character ≤ 4294967295 := by
  obtain ⟨line, column, text, stop, _, present, token, rfl⟩ := exists_tokenAt measured
  have short := narrow text (Array.mem_of_getElem? present)
  have nonempty := token.nonempty
  have inside := token.inside
  rw [Text.length_flatMap_units] at inside
  show (column : Int) ≤ 4294967295
  omega

namespace Tree

variable {tree : Tree} {found : Highlights} {token : Token}

/-- The walk of a tree ends and emits a token. -/
def Emits (tree : Tree) (token : Token) : Prop :=
  ∃ raw, tree.walk = .ok raw ∧ token ∈ raw.tokens

/-- Emitted tokens are tokens of the text and no macros. -/
theorem Emits.measured (emitted : tree.Emits token) : token.MeasuredIn tree.source := by
  obtain ⟨raw, walked, member⟩ := emitted
  exact measured_walk walked token member

/-- Records can hold every token that a walk emits. -/
theorem Emits.fits (emitted : tree.Emits token) (narrow : tree.source.Narrow) : token.Fits := by
  obtain ⟨kind, range, _, measured, rfl⟩ := emitted.measured
  have placed : (Token.ofKind kind range).Placed := ⟨kind, range, measured.natural, rfl⟩
  exact (placed.fits (measured.character_le narrow)).1

/-- A highlight was emitted or is the range of a macro, and every such token of its range is the
same.
-/
theorem emits_or_expanded (highlighted : tree.highlights = .ok found)
    (present : token ∈ found.tokens)
    : (tree.Emits token ∨ ∃ range ∈ tree.macros, token = .ofKind .macroName range)
      ∧ ∀ emitted, tree.Emits emitted → emitted.range = token.range → emitted = token := by
  obtain ⟨raw, walked, rfl⟩ := ok_of_map_iff.mp highlighted
  constructor
  · rcases Token.mem_of_mem_collect present with emitted | ⟨range, expanded, rfl⟩
    · exact .inl ⟨raw, walked, emitted⟩
    · exact .inr ⟨range, expanded, rfl⟩
  · rintro emitted ⟨_, again, member⟩ same
    obtain rfl := Except.ok.inj (walked.symm.trans again)
    exact (Token.mem_collect.mp present).2 emitted (List.mem_append_left _ member) same

/-- Of the highlights of a resolved tree, records can hold all but oversized macros: every other one
stands on a line.
-/
theorem Resolved.not_fits_iff (resolved : tree.Resolved) (narrow : tree.source.Narrow)
    (highlighted : tree.highlights = .ok found) (present : token ∈ found.tokens)
    : ¬ token.Fits ↔ token.Oversized := by
  refine ⟨fun wide => ?_, Token.Oversized.not_fits⟩
  have character : 4294967295 < token.range.start.character :=
    Int.lt_of_not_ge fun most =>
      wide ((resolved.placed highlighted token present).fits most).1
  rcases (emits_or_expanded highlighted present).1 with emitted | ⟨range, _, rfl⟩
  · exact absurd (emitted.fits narrow) wide
  · exact ⟨rfl, character⟩

/-- A highlight of the kind of macros is the range of a macro, which nothing emitted shares. -/
theorem exists_macro_of_kind (highlighted : tree.highlights = .ok found)
    (present : token ∈ found.tokens) (kind : token.kind = Kind.macroName.ordinal)
    : ∃ range ∈ tree.macros,
        token = .ofKind .macroName range
        ∧ ∀ emitted, tree.Emits emitted → emitted.range ≠ range := by
  have different : ¬ tree.Emits token := by
    intro emitted
    obtain ⟨own, _, other, _, rfl⟩ := emitted.measured
    exact other (Kind.eq_of_ordinal (Int.ofNat_inj.mp kind))
  obtain ⟨emitted | ⟨range, expanded, rfl⟩, alone⟩ := emits_or_expanded highlighted present
  · exact absurd emitted different
  · refine ⟨range, expanded, rfl, fun emitted emits same => different ?_⟩
    rwa [← alone emitted emits same]

/-- What becomes of encoding changed lines of what is found in a tree. -/
structure OverflowsAtMacros (tree : Tree) (found : Highlights) (lines : List Line) : Prop where
  /-- It fails exactly if one of them has a macro that starts too far to the right. -/
  fails
    : (∃ fault, EncodedLine.ofLines lines = .error fault)
      ↔ ∃ line ∈ lines, ∃ token ∈ line.tokens, token.Oversized
  /-- The fault tells the start column of the first such macro. -/
  first
    : ∀ fault,
        EncodedLine.ofLines lines = .error fault
        ↔ ∃ front token back,
            lines.flatMap Line.tokens = front ++ token :: back
            ∧ (∀ other ∈ front, ¬ other.Oversized)
            ∧ token.Oversized
            ∧ fault = ⟨4294967295, token.range.start.character⟩
  /-- It is one of the tree's macros, and no node was highlighted there. -/
  expanded
    : ∀ line ∈ lines,
        ∀ token ∈ line.tokens,
          token.Oversized
          → token ∈ found.tokens
            ∧ ∃ range ∈ tree.macros,
                token = .ofKind .macroName range
                ∧ ∀ emitted, tree.Emits emitted → emitted.range ≠ range
  kinds
    : ∀ line ∈ lines,
        ∀ token ∈ line.tokens, ∃ ordinal, Payload.field 65535 token.kind = .ok ordinal
  /-- Wherever a token stops, its wrapped length can be held. -/
  lengths
    : ∀ line ∈ lines,
        ∀ token ∈ line.tokens,
          ∀ stop,
            ∃ length,
              Payload.field 65535 (Payload.wrappedLength ⟨token.range.start, stop⟩) = .ok length
  nodes : ∀ token, tree.Emits token → ∃ bytes, Payload.record token = .ok bytes

/-- Lines of highlights of a resolved tree overflow at macros only, token by token. -/
theorem Resolved.overflowsAtMacros (resolved : tree.Resolved) (narrow : tree.source.Narrow)
    (highlighted : tree.highlights = .ok found) {lines : List Line}
    (within : ∀ line ∈ lines, ∀ token ∈ line.tokens, token ∈ found.tokens)
    : tree.OverflowsAtMacros found lines := by
  have known (token : Token) (present : token ∈ found.tokens)
      : 0 ≤ token.kind ∧ token.kind ≤ 65535 := by
    have kinds := (resolved.canonical highlighted).kinds token present
    omega
  have whole : ∀ token ∈ lines.flatMap Line.tokens, token ∈ found.tokens := by
    intro token member
    obtain ⟨line, present, inside⟩ := List.mem_flatMap.mp member
    exact within line present token inside
  constructor
  case fails =>
    calc (∃ fault, EncodedLine.ofLines lines = .error fault)
        ↔ ¬ ∃ encoded, EncodedLine.ofLines lines = .ok encoded := by
          cases EncodedLine.ofLines lines <;> simp
      _ ↔ ¬ ∀ line ∈ lines, ∀ token ∈ line.tokens, token.Fits :=
          not_congr EncodedLine.exists_ofLines
      _ ↔ ∃ line ∈ lines, ∃ token ∈ line.tokens, ¬ token.Fits := by
          simp only [not_forall, exists_prop]
      _ ↔ ∃ line ∈ lines, ∃ token ∈ line.tokens, token.Oversized := by
          refine exists_congr fun line => and_congr_right fun member => ?_
          refine exists_congr fun token => and_congr_right fun inside => ?_
          exact resolved.not_fits_iff narrow highlighted (within line member token inside)
  case first =>
    intro fault
    rw [EncodedLine.ofLines_eq_error, Payload.records_eq_error]
    refine exists_congr fun front => exists_congr fun token => exists_congr fun back => ?_
    refine and_congr_right fun split => ?_
    obtain ⟨before, here, _⟩ :
        (∀ other ∈ front, other ∈ found.tokens)
          ∧ token ∈ found.tokens
          ∧ ∀ other ∈ back, other ∈ found.tokens := by
      rw [split] at whole
      simpa only [List.forall_mem_append, List.forall_mem_cons] using whole
    rw [Payload.record_eq_error (known token here), resolved.not_fits_iff narrow highlighted here]
    refine and_congr_left fun _ => forall₂_congr fun other member => ?_
    rw [← resolved.not_fits_iff narrow highlighted (before other member), not_not]
  case expanded =>
    intro line member token inside oversized
    have present := within line member token inside
    exact ⟨present, exists_macro_of_kind highlighted present oversized.kind⟩
  case kinds =>
    exact fun line member token inside =>
      Payload.exists_field.mpr (known token (within line member token inside))
  case lengths =>
    intro line member token inside stop
    have short := Payload.wrappedLength_lt ⟨token.range.start, stop⟩
    exact Payload.exists_field.mpr (by omega)
  case nodes =>
    exact fun token emitted => Payload.exists_record.mpr (emitted.fits narrow)

end Tree

-----------------------------------------------------------------------------------------
-- Reachable stores
-----------------------------------------------------------------------------------------

/-- In every state that is reached from no open document, a resolved tree whose lines are shorter
than 2^32 units can be compared with what any document has, which is also what a call has that waits
for its tree. The changed lines overflow at macros only: encoding them fails exactly if one of them
has a macro that starts beyond column 2^32 - 1, and then the highlight fails with that column. A
tree whose walk never ends has no lines to encode.
-/
theorem Service.overflowsAtMacros_of_run {publishes : Bool} {events : List Event}
    {service : Service} {effects : List Effect}
    (ran : Service.run publishes .initial events = some (service, effects))
    (loaded : ∀ ticket tree, .loaded ticket (.ok tree) ∈ events → tree.Resolved)
    {tree : Tree} (resolved : tree.Resolved) (narrow : tree.source.Narrow)
    : (∀ call ∈ service.queue.jobs,
        ∀ request base,
          call.stage = .running (.loading request base)
          → base = service.store.get? request.uri)
      ∧ ∀ request : HighlightRequest,
          (∀ found,
            tree.highlights = .ok found
            → ∃ lines,
                Line.changes found.tokens (Snapshot.baseline (service.store.get? request.uri))
                  = .ok lines
                ∧ tree.OverflowsAtMacros found lines
                ∧ ∀ fault,
                    (request.commit (service.store.get? request.uri) tree).answer
                      = .error (.overflow fault)
                    ↔ EncodedLine.ofLines lines = .error fault)
          ∧ ∀ lost,
              tree.highlights = .error lost
              → ∀ fault,
                  (request.commit (service.store.get? request.uri) tree).answer
                  ≠ .error (.overflow fault) := by
  obtain ⟨sound, canonical⟩ := Service.Canonical.of_run ran loaded
  constructor
  · intro call member request base loading
    obtain ⟨task, same, _⟩ := sound.loading call member request base loading
    have named := sound.named call member
    rw [task] at named
    rw [same, ← named]
    rfl
  · intro request
    constructor
    · intro found highlighted
      have previous := Snapshot.canonical_tokens (canonical.stored request.uri)
      obtain ⟨lines, compared, _⟩ :=
        Line.changes_of_canonical (resolved.canonical highlighted) previous
      have within := Line.mem_of_changes compared
      have overflows := resolved.overflowsAtMacros narrow highlighted within
      refine ⟨lines, compared, overflows, fun fault => ?_⟩
      simp only [HighlightRequest.commit_of_highlights highlighted, HighlightRequest.commitFound,
        compared]
      cases EncodedLine.ofLines lines <;> simp
    · intro lost endless fault
      simp [HighlightRequest.commit_of_endless endless]

/-- A document whose macro has been highlighted. -/
def Service.expanded : List Event :=
  [.arrive (.highlight ⟨"main.cpp", .ofInt 1, "first.json"⟩), .start 0,
    .loaded 0 (.ok (.ofMacro 2 5 3)), .leave 0]

/-- The next version of that document. -/
def HighlightRequest.renewed : HighlightRequest := ⟨"main.cpp", .ofInt 2, "second.json"⟩

/-- The macro of its next version starts too far to the right, and stops far left of that. -/
theorem Service.overflowsAtMacros_of_run_expanded
    : ∃ service effects found lines,
        Service.run false .initial expanded = some (service, effects)
        ∧ (Tree.ofMacro 3 4294967296 1).Resolved
        ∧ (Tree.ofMacro 3 4294967296 1).source.Narrow
        ∧ (service.store.get? "main.cpp").isSome
        ∧ (Tree.ofMacro 3 4294967296 1).highlights = .ok found
        ∧ Line.changes found.tokens (Snapshot.baseline (service.store.get? "main.cpp")) = .ok lines
        ∧ EncodedLine.ofLines lines = .error ⟨4294967295, 4294967296⟩
        ∧ ∃ line ∈ lines, ∃ token ∈ line.tokens, token.Oversized := by
  have runs
      : (Service.run false .initial expanded).any (fun result =>
          (result.1.store.get? "main.cpp").isSome
            && (HighlightRequest.renewed.commit (result.1.store.get? "main.cpp")
                (.ofMacro 3 4294967296 1)).answer
              = .error (.overflow ⟨4294967295, 4294967296⟩)) = true := by
    cbv
  obtain ⟨⟨service, effects⟩, ran, checked⟩ := (Option.any_eq_true _ _).mp runs
  obtain ⟨isOpen, failed⟩ := Bool.and_eq_true_iff.mp checked
  have loaded : ∀ ticket tree, .loaded ticket (.ok tree) ∈ expanded → tree.Resolved := by
    intro ticket tree member
    simp only [expanded, List.mem_cons, reduceCtorEq, Event.loaded.injEq, Except.ok.injEq,
      List.not_mem_nil, false_or, or_false] at member
    obtain ⟨_, rfl⟩ := member
    exact Tree.resolved_ofMacro (by decide) (by decide) (by decide)
  have resolved : (Tree.ofMacro 3 4294967296 1).Resolved :=
    Tree.resolved_ofMacro (by decide) (by decide) (by decide)
  have narrow : (Tree.ofMacro 3 4294967296 1).source.Narrow := by
    intro line member
    obtain rfl : line = [] := by simpa [Tree.ofMacro, Source.ofText, Source.splitLines,
      Source.dropReturn] using member
    decide
  have highlighted := Tree.highlights_ofMacro 3 4294967296 1
  obtain ⟨lines, compared, overflows, answers⟩ :=
    ((Service.overflowsAtMacros_of_run ran loaded resolved narrow).2 .renewed).1 _ highlighted
  have overflow := (answers _).mp (of_decide_eq_true failed)
  exact ⟨service, effects, _, lines, ran, resolved, narrow, isOpen, highlighted, compared, overflow,
    overflows.fails.mp ⟨_, overflow⟩⟩

end Highlighter
