import Highlighter.Proofs.Token.Collection
import Highlighter.Proofs.Tree.Contributions
import Highlighter.Proofs.Tree.Reads
import Highlighter.Tree.Highlights
import Highlighter.Tree.Load

/-! Highlights of a resolved tree, one that was read from JSON. They are sorted and of known kinds,
and no line or column of theirs is negative: a node's token stands in the text, and the coordinates
of a macro's range are checked when the tree is read.
-/

namespace Highlighter

/-- No line or column of a range is negative. -/
structure Range.Natural (range : Range) : Prop where
  startLine : 0 ≤ range.start.line
  startCharacter : 0 ≤ range.start.character
  stopLine : 0 ≤ range.stop.line
  stopCharacter : 0 ≤ range.stop.character

/-- A token of a known kind whose range has no negative line or column. -/
def Token.Placed (token : Token) : Prop :=
  ∃ (kind : Kind) (range : Range), range.Natural ∧ ofKind kind range = token

/-- A token of a known kind, not that of macros, whose range is measured in a source. -/
def Token.MeasuredIn (source : Source) (token : Token) : Prop :=
  ∃ (kind : Kind) (range : Range),
    kind ≠ .macroName ∧ source.Measures range ∧ token = ofKind kind range

-----------------------------------------------------------------------------------------
-- Reading ranges
-----------------------------------------------------------------------------------------

namespace Reading

/-- A coordinate is a natural number, by its check. -/
theorem nonneg_coordinate {place : Place} {value : Option Json} {coordinate : Int}
    (read : (Reading.coordinate place value).result = .ok coordinate)
    : 0 ≤ coordinate := by
  unfold Reading.coordinate at read
  split at read
  · split at read
    next n _ =>
      rw [← Except.ok.inj read]
      exact Int.natCast_nonneg n
    next => contradiction
  · contradiction

/-- No coordinate of a range that was read is negative. -/
theorem natural_range {place : Place} {value : Json} {range : Range}
    (read : (Reading.range place value).result = .ok range)
    : range.Natural := by
  simp only [Reading.range, result_bind, result_pure] at read
  obtain ⟨_, _, _, _, _, _, startLine, first, start, second, stopLine, third, stop, fourth, rfl⟩ :=
    read
  exact ⟨nonneg_coordinate first, nonneg_coordinate second, nonneg_coordinate third,
    nonneg_coordinate fourth⟩

/-- All ranges of an array that was read are natural, by induction over its items. -/
theorem natural_rangesFrom {place : Place} {index : Nat} {items : List Json} {ranges : List Range}
    (read : (rangesFrom place index items).result = .ok ranges)
    : ∀ range ∈ ranges, range.Natural := by
  induction items generalizing index ranges with
  | nil =>
      rw [rangesFrom, result_pure] at read
      simp [← read]
  | cons item rest ih =>
      simp only [rangesFrom, result_bind, result_pure] at read
      obtain ⟨first, here, others, later, rfl⟩ := read
      exact List.forall_mem_cons.mpr ⟨natural_range here, ih later⟩

/-- The ranges of macros are natural, if there are any. -/
theorem natural_macros {place : Place} {value : Option Json} {macros : List Range}
    (read : (orDefault value [] (ranges place)).result = .ok macros)
    : ∀ range ∈ macros, range.Natural := by
  cases value with
  | none =>
      rw [← Except.ok.inj read]
      simp
  | some value =>
      simp only [orDefault, ranges, result_bind] at read
      obtain ⟨items, _, listed⟩ := read
      exact natural_rangesFrom listed

end Reading

/-- The macros of a tree that was read are natural, or there are none. -/
theorem Tree.natural_macros {json : Json} {tree : Tree} (read : Tree.read json = .ok tree)
    : ∀ range ∈ tree.macros, range.Natural := by
  simp only [Tree.read, bind, Except.bind] at read
  split at read
  · contradiction
  next heading _ =>
    split at read
    · contradiction
    next begun _ =>
      split at read
      · contradiction
      next body there =>
        rw [← Except.ok.inj read]
        simp only [Heading.body, Reading.result_bind, Reading.result_pure] at there
        obtain ⟨nodes, _, macros, listed, rfl⟩ := there
        exact Reading.natural_macros listed

-----------------------------------------------------------------------------------------
-- Walking nodes
-----------------------------------------------------------------------------------------

/-- A measured range is natural, since it stands on a line of the text. -/
theorem Source.Measures.natural {source : Source} {range : Range} (measured : source.Measures range)
    : range.Natural := by
  obtain ⟨line, column, _, stop, _, _, _, rfl⟩ := exists_tokenAt measured
  exact ⟨Int.natCast_nonneg line, Int.natCast_nonneg column, Int.natCast_nonneg line,
    Int.natCast_nonneg stop⟩

/-- The tokens of a walk are measured in the tree's text, and none is of a macro, by what the
occurrences of the tree contribute.
-/
theorem Tree.measured_walk {tree : Tree} {raw : Highlights} (walked : tree.walk = .ok raw)
    : ∀ token ∈ raw.tokens, token.MeasuredIn tree.source := by
  intro token member
  obtain ⟨occurrences, answered, contribute⟩ := exists_occurrences_of_walk walked
  obtain ⟨occurrence, asked, kind, place, range, stands, measured, made⟩ :=
    contribute.token_of_mem token member
  exact ⟨kind, range, (hasPlace_of_stands answered asked stands).2,
    Source.measures_of_tokenRange measured, made⟩

/-- A tree that some JSON describes, whatever path is to blame for it. -/
def Tree.Resolved (tree : Tree) : Prop :=
  ∃ path json, Tree.ofJson path json = .ok tree

/-- A tree that is read is resolved, whatever its path is. -/
theorem Tree.resolved_of_read {json : Json} {tree : Tree} (read : Tree.read json = .ok tree)
    : tree.Resolved :=
  ⟨"main.json", json, by rw [ofJson, read]; rfl⟩

/-- The highlights of a resolved tree are placed, each of them being emitted or a macro. -/
theorem Tree.Resolved.placed {tree : Tree} (resolved : tree.Resolved) {found : Highlights}
    (highlighted : tree.highlights = .ok found)
    : ∀ token ∈ found.tokens, token.Placed := by
  obtain ⟨raw, walked, rfl⟩ := ok_of_map_iff.mp highlighted
  intro token member
  rcases Token.mem_of_mem_collect member with emitted | ⟨range, expanded, rfl⟩
  · obtain ⟨kind, range, -, measured, rfl⟩ := measured_walk walked token emitted
    exact ⟨kind, range, measured.natural, rfl⟩
  · obtain ⟨path, json, described⟩ := resolved
    unfold ofJson at described
    cases read : Tree.read json with
    | error misfit =>
        rw [read] at described
        contradiction
    | ok found =>
        rw [read] at described
        rw [← Except.ok.inj described] at expanded
        exact ⟨.macroName, range, natural_macros read range expanded, rfl⟩

/-- The highlights of a tree are sorted, as they are collected. -/
theorem Tree.sorted_highlights {tree : Tree} {found : Highlights}
    (highlighted : tree.highlights = .ok found)
    : Token.Sorted found.tokens := by
  obtain ⟨raw, walked, rfl⟩ := ok_of_map_iff.mp highlighted
  exact Token.sorted_collect _ _

/-- The highlights of a resolved tree are sorted and start on lines from 0 on. -/
theorem Tree.Resolved.sorted {tree : Tree} (resolved : tree.Resolved) {found : Highlights}
    (highlighted : tree.highlights = .ok found)
    : Token.Sorted found.tokens ∧ ∀ token ∈ found.tokens, 0 ≤ token.line := by
  refine ⟨sorted_highlights highlighted, fun token member => ?_⟩
  obtain ⟨kind, range, natural, rfl⟩ := resolved.placed highlighted token member
  exact natural.startLine

-----------------------------------------------------------------------------------------
-- A tree of one macro
-----------------------------------------------------------------------------------------

/-- The JSON form of a range on one line. -/
def Json.stretch (line start stop : Nat) : Json :=
  .object [("start", .object [("line", .int line), ("character", .int start)]),
    ("end", .object [("line", .int line), ("character", .int stop)])]

/-- A range is read as it was written, if its coordinates need no rounding. -/
theorem Reading.range_stretch {line start stop : Nat} (smallLine : line < 9007199254740992)
    (smallStart : start < 9007199254740992) (smallStop : stop < 9007199254740992) (place : Place)
    : Reading.range place (.stretch line start stop) = .done (.between line start line stop) := by
  have written {n : Nat} (small : n < 9007199254740992) (place : Place)
      : Reading.coordinate place (some (.int n)) = .done (n : Int) := by
    simp only [coordinate, Json.int, Number.toNat?_ofInt small]
  simp [Reading.range, Json.stretch, object, Json.lookup, bind, andThen, done, pure,
    written smallLine, written smallStart, written smallStop]

/-- A tree whose only highlight is a macro on one line. -/
def Tree.ofMacro (line start stop : Nat) : Tree :=
  ⟨.ofText "main.cpp" "", [], [.between line start line stop], ⟨[]⟩⟩

/-- The highlights of a tree of one macro are its name alone: there is nothing to walk. -/
theorem Tree.highlights_ofMacro (line start stop : Nat)
    : (ofMacro line start stop).highlights
      = .ok ⟨[.ofKind .macroName (.between line start line stop)], []⟩ := by
  have walked : (ofMacro line start stop).walk = .ok ⟨[], []⟩ := by
    simp [walk, emissions, ofMacro, Emission.ofStack, Except.map, pure, Except.pure]
  rw [highlights, walked]
  simp only [Except.map, ofMacro, Token.collect, Token.sort, List.nil_append, List.map_cons,
    List.map_nil, List.mergeSort_singleton]
  rfl

/-- What describes a tree of one macro. -/
def Json.ofMacro (line start stop : Nat) : Json :=
  .object [("mainFile", .string "main.cpp"), ("text", .string ""), ("nodes", .array []),
    ("macros", .array [.stretch line start stop])]

/-- A tree of one macro is resolved, if its coordinates need no rounding. Witness: it has no nodes,
so no declaration is looked for.
-/
theorem Tree.resolved_ofMacro {line start stop : Nat} (smallLine : line < 9007199254740992)
    (smallStart : start < 9007199254740992) (smallStop : stop < 9007199254740992)
    : (Tree.ofMacro line start stop).Resolved := by
  obtain ⟨heading, begun, source, body⟩
      : ∃ heading : Heading,
          (Heading.read (.ofMacro line start stop)).result = .ok heading
          ∧ Source.ofText heading.mainFile heading.text = .ofText "main.cpp" ""
          ∧ heading.body = .done ([], [.between line start line stop]) := by
    refine ⟨⟨"main.cpp", "", [], _⟩, rfl, rfl, ?_⟩
    simp [Heading.body, Json.lookup, Reading.presentNodes, Reading.nodes, Reading.nodesFrom,
      Reading.orDefault, Reading.ranges, Reading.array, Reading.rangesFrom, bind, Reading.andThen,
      Reading.range_stretch smallLine smallStart smallStop, pure, Reading.done]
  have read : Tree.read (.ofMacro line start stop) = .ok (.ofMacro line start stop) := by
    simp [Tree.read, begun, source, body, bind, Except.bind, Reading.errands, Reading.done,
      Errand.run, pure, Except.pure, ofMacro]
  exact resolved_of_read read

end Highlighter
