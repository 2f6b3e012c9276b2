import Highlighter.Document.Readback
import Highlighter.Proofs.Line.Patching
import Highlighter.Proofs.Payload.RoundTrip
import Highlighter.Proofs.Service.Rejection
import Highlighter.Proofs.Tree.Preorder

/-! The first highlight of a document tells the tokens that the listing of its tree has. Compared
with nothing, every line that has tokens is changed, in order; so the changed lines have all tokens,
and reading their payloads loses nothing but the multiples of 65536 in their lengths. A tree whose
walk never ends has neither.
-/

namespace Highlighter

-----------------------------------------------------------------------------------------
-- Changes against nothing
-----------------------------------------------------------------------------------------

namespace Slice

/-- The slices of what remains have all new tokens, by induction over the lines that are examined.
-/
theorem flatMap_next_remaining (next previous : List Token)
    : (remaining next previous).flatMap Slice.next = next := by
  induction next, previous using remaining.induct with
  | case1 next previous ended =>
      rw [remaining_of_none ended, (nil_of_leastLine_none ended).1]
      rfl
  | case2 next previous line least ih =>
      rw [remaining_of_some least, List.flatMap_cons, ih]
      exact List.takeWhile_append_dropWhile

/-- The slices that are examined have all new tokens. -/
theorem flatMap_next_all (next previous : List Token)
    : (all next previous).flatMap Slice.next = next := by
  rw [all]
  split
  next ended =>
    simp only [Bool.and_eq_true, List.isEmpty_iff] at ended
    rw [ended.1]
    rfl
  next =>
    rw [List.flatMap_cons, flatMap_next_remaining]
    exact List.takeWhile_append_dropWhile

/-- The changed lines have all new tokens if there were none before: a slice that is not changed has
nothing on either side.
-/
theorem flatMap_tokens_changed {slices : List Slice}
    (fresh : ∀ slice ∈ slices, slice.previous = [])
    : (slices.filterMap changed?).flatMap Line.tokens = slices.flatMap Slice.next := by
  induction slices with
  | nil => rfl
  | cons slice rest ih =>
      obtain ⟨nothing, others⟩ := List.forall_mem_cons.mp fresh
      rw [List.filterMap_cons, List.flatMap_cons, changed?, nothing]
      by_cases empty : slice.next = []
      · simp [empty, ih others]
      · simp [empty, ih others]

end Slice

/-- Compared with nothing, sorted tokens on lines from 0 on are all on the changed lines, each on
the line that it starts on.
-/
theorem Line.changes_nil {tokens : List Token} (sorted : Token.Sorted tokens)
    (least : ∀ token ∈ tokens, 0 ≤ token.line)
    : ∃ lines,
        changes tokens [] = .ok lines
        ∧ lines.flatMap Line.tokens = tokens
        ∧ ∀ line ∈ lines, ∀ token ∈ line.tokens, token.line = line.line := by
  have cuts := Slice.cuts_all sorted.lines List.Pairwise.nil (by simpa using least)
  have fresh : ∀ slice ∈ Slice.all tokens [], slice.previous = [] :=
    fun slice member => cuts.onPrevious slice member
  refine ⟨_, changes_of_sorted sorted .nil, ?_, fun line member token inside => ?_⟩
  · rw [Slice.flatMap_tokens_changed fresh, Slice.flatMap_next_all]
  · obtain ⟨slice, examined, isLine⟩ := List.mem_filterMap.mp member
    obtain ⟨_, rfl⟩ := Slice.changed?_eq_some.mp isLine
    have onLine : token ∈ Token.on slice.line tokens := cuts.onNext slice examined ▸ inside
    simpa using (List.mem_filter.mp onLine).2

-----------------------------------------------------------------------------------------
-- Reading encoded lines
-----------------------------------------------------------------------------------------

/-- A span on a line is what is kept of a token that starts there. -/
def Token.ToldBy (token : Token) (told : Int × Span) : Prop :=
  token.line = told.1 ∧ told.2.Keeps token

/-- The tokens of a line start on it, have known kinds, and fit into records. -/
def Line.Readable (line : Line) : Prop :=
  ∀ token ∈ line.tokens, token.line = line.line ∧ token.Fits ∧ token.kind ≤ 17

namespace EncodedLine

/-- A readable line can be encoded, and reading it tells its tokens. -/
theorem spans_ofLine {line : Line} (readable : line.Readable)
    : ∃ encoded told,
        ofLine line = .ok encoded
        ∧ spans encoded = .ok told
        ∧ List.Forall₂ Token.ToldBy line.tokens told := by
  obtain ⟨found, keeps⟩ := exists_forall₂ fun token member =>
    (readable token member).2.1.exists_keeps (readable token member).2.2
  obtain ⟨payload, encoded, decoded⟩ := Payload.decode_of_keeps keeps
  refine ⟨⟨line.line, payload⟩, found.map fun span => (line.line, span), ?_, ?_, ?_⟩
  · rw [ofLine, encoded]
    rfl
  · rw [spans, decoded]
    rfl
  · have onLine : ∀ token ∈ line.tokens, token.line = line.line :=
      fun token member => (readable token member).1
    exact List.forall₂_map_right_iff.mpr ((List.forall₂_and_left _ _).mpr ⟨onLine, keeps⟩)

/-- Readable lines can be encoded, and reading them tells their tokens line by line, by induction
over the lines.
-/
theorem allSpans_ofLines {lines : List Line} (readable : ∀ line ∈ lines, line.Readable)
    : ∃ encoded told,
        ofLines lines = .ok encoded
        ∧ allSpans encoded = .ok told
        ∧ List.Forall₂ Token.ToldBy (lines.flatMap Line.tokens) told := by
  induction lines with
  | nil => exact ⟨[], [], rfl, rfl, .nil⟩
  | cons line rest ih =>
      obtain ⟨here, later⟩ := List.forall_mem_cons.mp readable
      obtain ⟨first, toldFirst, encodedFirst, readFirst, tellsFirst⟩ := spans_ofLine here
      obtain ⟨others, toldOthers, encodedOthers, readOthers, tellsOthers⟩ := ih later
      refine ⟨first :: others, toldFirst ++ toldOthers, ?_, ?_, ?_⟩
      · rw [ofLines, encodedFirst, encodedOthers]
        rfl
      · rw [allSpans, readFirst, readOthers]
        rfl
      · rw [List.flatMap_cons]
        exact List.rel_append tellsFirst tellsOthers

end EncodedLine

-----------------------------------------------------------------------------------------
-- Listing and first highlight
-----------------------------------------------------------------------------------------

/-- A placed token fits into a record if it does not start too far to the right. -/
theorem Token.Placed.fits {token : Token} (placed : token.Placed)
    (narrow : token.range.start.character ≤ 4294967295)
    : token.Fits ∧ token.kind ≤ 17 := by
  obtain ⟨kind, range, natural, rfl⟩ := placed
  have known : (kind.ordinal : Int) < 18 := mod_cast kind.ordinal_lt
  refine ⟨⟨⟨natural.startCharacter, narrow⟩, Int.natCast_nonneg _, ?_⟩, ?_⟩
  · show (kind.ordinal : Int) ≤ 65535
    omega
  · show (kind.ordinal : Int) ≤ 17
    omega

/-- The entry of a token agrees with what is told of it. -/
theorem Token.ToldBy.agrees {token : Token} {told : Int × Span} (tells : token.ToldBy told)
    : (TokenEntry.ofToken token).Agrees told := by
  obtain ⟨onLine, keeps⟩ := tells
  refine ⟨onLine, keeps.character.symm, ?_, ?_⟩
  · show Kind.ofOrdinal? token.kind = some told.2.kind
    rw [← keeps.kind, Kind.ofOrdinal?_ordinal]
  · show token.range.width % 65536 = told.2.length
    rw [keeps.length, Payload.wrappedLength]
    omega

/-- A tree is listed exactly if its walk ends, by definition. -/
theorem Listing.ofTree_eq_error {tree : Tree} {fault : Endless}
    : ofTree tree = .error fault ↔ tree.highlights = .error fault :=
  error_of_map_iff

/-- Without cycles of typedefs a tree is listed. -/
theorem Listing.exists_ofTree {tree : Tree} (grounded : tree.decls.Grounded)
    : ∃ listing, ofTree tree = .ok listing := by
  obtain ⟨raw, walked⟩ := tree.exists_walk grounded
  exact ⟨_, by rw [ofTree, Tree.highlights, walked]; rfl⟩

/-- The first highlight of a document fails for its tree's walk exactly if the listing does, by
cases on how a highlight is rejected.
-/
theorem Store.perform_endless_iff {surroundings : Surroundings} {store : Store}
    {request : HighlightRequest} {tree : Tree} (closed : store.get? request.uri = none)
    (loaded : surroundings.load request.path = .ok tree) (fault : Endless)
    : (store.perform surroundings (.highlight request)).2.2 = .error (.endless fault)
      ↔ Listing.ofTree tree = .error fault := by
  rw [Listing.ofTree_eq_error]
  constructor
  · rcases performed : store.perform surroundings (.highlight request) with ⟨next, effects, answer⟩
    rintro rfl
    cases Store.rejects_of_perform performed (by simp) with
    | endless _ same lost =>
        obtain rfl := Except.ok.inj (loaded.symm.trans same)
        exact lost
  · intro lost
    simp only [perform, closed, HighlightRequest.checkVersion, loaded,
      HighlightRequest.commit_of_endless lost]

/-- Compared with nothing, what is found in a resolved tree is answered as it is listed: all of it
is on the changed lines.
-/
theorem HighlightRequest.agrees_listing (request : HighlightRequest) {tree : Tree}
    (resolved : tree.Resolved) {found : Highlights} (highlighted : tree.highlights = .ok found)
    (narrow : ∀ token ∈ found.tokens, token.range.start.character ≤ 4294967295)
    : ∃ answer told,
        (request.commit none tree).answer = .ok answer
        ∧ EncodedLine.allSpans answer.lines = .ok told
        ∧ List.Forall₂ TokenEntry.Agrees (Listing.ofHighlights found).tokens told
        ∧ answer.diagnostics = (Listing.ofHighlights found).diagnostics := by
  obtain ⟨sorted, least⟩ := resolved.sorted highlighted
  obtain ⟨lines, compared, whole, onLine⟩ := Line.changes_nil sorted least
  have readable : ∀ line ∈ lines, line.Readable := by
    intro line member token inside
    have present : token ∈ found.tokens := by
      rw [← whole]
      exact List.mem_flatMap.mpr ⟨line, member, inside⟩
    exact ⟨onLine line member token inside,
      (resolved.placed highlighted token present).fits (narrow token present)⟩
  obtain ⟨encoded, told, lined, read, tells⟩ := EncodedLine.allSpans_ofLines readable
  rw [whole] at tells
  have answered
      : (request.commit none tree).answer
        = .ok ⟨request.uri, request.version, encoded, found.diagnostics.length⟩ := by
    simp only [commit_of_highlights highlighted, commitFound, Snapshot.baseline, compared, lined]
  refine ⟨_, told, answered, read, ?_, rfl⟩
  exact List.forall₂_map_left_iff.mpr (tells.imp fun _ _ one => one.agrees)

/-- The first highlight of a document answers with what the listing of its tree has, if none of the
tree's tokens starts beyond column 2^32 - 1: reading the payloads of its lines one after the other
tells the listed tokens in their order, but for the multiples of 65536 in their lengths, and both
count the same diagnostics. The caller has this answer unless it cannot be published. Both are there
if no typedef leads back to itself; if the walk of the tree never ends, both fail for it.
-/
theorem Store.perform_agrees_listing {surroundings : Surroundings} {store : Store}
    {request : HighlightRequest} {tree : Tree} (closed : store.get? request.uri = none)
    (loaded : surroundings.load request.path = .ok tree) (resolved : tree.Resolved)
    (narrow
      : ∀ found,
          tree.highlights = .ok found
          → ∀ token ∈ found.tokens, token.range.start.character ≤ 4294967295)
    : (∀ listing,
        Listing.ofTree tree = .ok listing
        → ∃ answer told,
            (request.commit none tree).answer = .ok answer
            ∧ (surroundings.publish answer = .ok ()
              → (store.perform surroundings (.highlight request)).2.2 = .ok (.highlighted answer))
            ∧ EncodedLine.allSpans answer.lines = .ok told
            ∧ List.Forall₂ TokenEntry.Agrees listing.tokens told
            ∧ answer.diagnostics = listing.diagnostics)
      ∧ (tree.decls.Grounded → ∃ listing, Listing.ofTree tree = .ok listing)
      ∧ ∀ fault,
          (store.perform surroundings (.highlight request)).2.2 = .error (.endless fault)
          ↔ Listing.ofTree tree = .error fault := by
  refine ⟨fun listing listed => ?_, Listing.exists_ofTree, perform_endless_iff closed loaded⟩
  obtain ⟨found, highlighted, rfl⟩ := ok_of_map_iff.mp listed
  obtain ⟨answer, told, answered, read, agrees, counted⟩ :=
    request.agrees_listing resolved highlighted (narrow found highlighted)
  refine ⟨answer, told, answered, fun published => ?_, read, agrees, counted⟩
  simp only [perform, closed, HighlightRequest.checkVersion, loaded, answered, published]
  split <;> rfl

/-- A macro of 70000 columns is listed with its length, of which its payload tells 4464. -/
theorem Store.perform_agrees_listing_wide
    : (Tree.ofMacro 2 4 70004).Resolved
      ∧ ∃ listing answer told,
          Listing.ofTree (.ofMacro 2 4 70004) = .ok listing
          ∧ listing.tokens = [⟨2, 4, 70000, some .macroName⟩]
          ∧ (Store.perform (.always (.ok (.ofMacro 2 4 70004))) .empty (.highlight .first)).2.2
            = .ok (.highlighted answer)
          ∧ EncodedLine.allSpans answer.lines = .ok told
          ∧ List.Forall₂ TokenEntry.Agrees listing.tokens told
          ∧ told.map (fun told => told.2.length) = [4464] := by
  have resolved : (Tree.ofMacro 2 4 70004).Resolved :=
    Tree.resolved_ofMacro (by decide) (by decide) (by decide)
  have highlighted := Tree.highlights_ofMacro 2 4 70004
  have narrow : ∀ found,
      (Tree.ofMacro 2 4 70004).highlights = .ok found
      → ∀ token ∈ found.tokens, token.range.start.character ≤ 4294967295 := by
    intro found same
    obtain rfl := Except.ok.inj (highlighted.symm.trans same)
    decide
  have loaded
      : (Surroundings.always (.ok (Tree.ofMacro 2 4 70004))).load HighlightRequest.first.path
        = .ok (.ofMacro 2 4 70004) :=
    rfl
  have closed : (.empty : Store).get? HighlightRequest.first.uri = none := rfl
  have listed
      : Listing.ofTree (.ofMacro 2 4 70004) = .ok ⟨[⟨2, 4, 70000, some .macroName⟩], 0⟩ := by
    rw [Listing.ofTree, highlighted]
    decide
  obtain ⟨answer, told, _, answered, read, agrees, _⟩ :=
    (Store.perform_agrees_listing closed loaded resolved narrow).1 _ listed
  refine ⟨resolved, _, answer, told, listed, rfl, answered rfl, read, agrees, ?_⟩
  obtain ⟨⟨line, span⟩, rest, one, last, rfl⟩ := List.forall₂_cons_left_iff.mp agrees
  cases last
  have wrapped : (70000 : Int) % 65536 = span.length := one.length
  have short : span.length = 4464 := by omega
  rw [List.map_singleton, short]

end Highlighter
