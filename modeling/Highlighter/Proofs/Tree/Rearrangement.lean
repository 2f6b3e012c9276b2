import Highlighter.Proofs.Tree.Likeness
import Highlighter.Proofs.Tree.Resolved
import Mathlib

/-! Highlights of a tree that is listed in another way. They are the same if both trees have any;
and whether they have any depends on the order of candidates only if a search never ends for one of
them, which is then met in front of the others and need not be met behind them.
-/

namespace Highlighter

variable {same : DeclId → DeclId → Prop}

-----------------------------------------------------------------------------------------
-- A candidate in front of the others
-----------------------------------------------------------------------------------------

/-- Candidates with one of them in front; others stay as they are. -/
def fronted (first : DeclId) (candidates : List DeclId) : List DeclId :=
  if first ∈ candidates then first :: candidates else candidates

theorem mem_fronted {first candidate : DeclId} {candidates : List DeclId}
    : candidate ∈ fronted first candidates ↔ candidate ∈ candidates := by
  unfold fronted
  split
  next member => simp only [List.mem_cons, or_iff_right_iff_imp]; exact fun same => same ▸ member
  next => exact Iff.rfl

theorem SameElements.fronted (first : DeclId) (candidates : List DeclId)
    : SameElements (· = ·) candidates (fronted first candidates) :=
  ⟨fun one member => ⟨one, mem_fronted.mpr member, rfl⟩,
    fun one member => ⟨one, mem_fronted.mp member, rfl⟩⟩

/-- A using declaration with one of its shadows in front. -/
def Entity.fronted (first : DeclId) : Entity → Entity
  | usingList shadows => usingList (Highlighter.fronted first shadows)
  | entity => entity

theorem Entity.Alike.fronted (first : DeclId) (entity : Entity)
    : entity.Alike (· = ·) (entity.fronted first) := by
  cases entity with
  | usingList shadows => exact .usingList (.fronted first shadows)
  | _ => exact .refl _

/-- Declarations with one of the shadows in front wherever it is listed. -/
def DeclTable.fronted (first : DeclId) (table : DeclTable) : DeclTable :=
  ⟨table.decls.map fun decl => { decl with entity := decl.entity.fronted first }⟩

theorem DeclTable.find?_fronted (first : DeclId) (table : DeclTable) (id : DeclId)
    : (table.fronted first).find? id
      = (table.find? id).map fun decl => { decl with entity := decl.entity.fronted first } :=
  List.find?_map ..

theorem DeclTable.Alike.fronted (first : DeclId) (table : DeclTable)
    : table.Alike (· = ·) (table.fronted first) := by
  intro one another equal
  subst equal
  rw [find?_fronted]
  cases table.find? one with
  | none => exact .none
  | some decl => exact .some ⟨rfl, rfl, .fronted first decl.entity⟩

/-- A node with one of its candidates in front. -/
def Shape.fronted (first : DeclId) : Shape → Shape
  | overloadRef location name candidates =>
      overloadRef location name (Highlighter.fronted first candidates)
  | shape => shape

theorem Shape.Alike.fronted (first : DeclId) (shape : Shape)
    : shape.Alike (· = ·) (shape.fronted first) := by
  cases shape with
  | overloadRef location name candidates =>
      exact .overloadRef location name (.fronted first candidates)
  | _ => exact .refl _

/-- A node that asks about a candidate without an end has no answer once that one is in front. -/
theorem Shape.exists_endless_fronted {table : DeclTable} {shape : Shape} {first : DeclId}
    (asked : first ∈ shape.candidates table) (endless : table.kindOf first = .error .typedefs)
    : ∃ question ∈ (shape.fronted first).questions (table.fronted first),
        question.kind = .error .typedefs := by
  have stillEndless : (table.fronted first).kindOf first = .error .typedefs :=
    ((DeclTable.Alike.fronted first table).kindOf rfl).symm.trans endless
  have decides (rest : List DeclId)
      : (table.fronted first).candidatesKind (first :: rest) = .error .typedefs :=
    DeclTable.commonKind_of_endless stillEndless none rest
  unfold candidates at asked
  split at asked
  next location name candidates =>
    split at asked
    next written =>
      simp only [fronted, questions, named, written, if_true, Highlighter.fronted, asked]
      exact ⟨_, List.mem_singleton_self _, error_of_map_iff.mpr (decides candidates)⟩
    next => contradiction
  next id placeholder =>
    split at asked
    next shadows lists =>
      obtain ⟨decl, found, entity⟩ := Option.map_eq_some_iff.mp lists
      have there := DeclTable.find?_fronted first table id
      simp only [found, Option.map_some, entity, Entity.fronted, Highlighter.fronted, asked,
        if_true] at there
      simp only [fronted, questions, there]
      refine ⟨⟨decl.location, _⟩, List.mem_append_left _ ?_, decides shadows⟩
      exact List.mem_append_right _ (List.mem_singleton_self _)
    next => contradiction
  next => contradiction

namespace Tree

/-- The nodes of a tree side by side, with one of the candidates in front wherever it is one. -/
def fronted (first : DeclId) (tree : Tree) : Tree where
  source := tree.source
  nodes := tree.shapes.map fun shape => .mk (shape.fronted first) none
  macros := tree.macros
  decls := tree.decls.fronted first

theorem shapes_fronted (first : DeclId) (tree : Tree)
    : (tree.fronted first).shapes = tree.shapes.map (Shape.fronted first) := by
  have leaves (listed : List Shape)
      : (Node.forestOrder (listed.map fun shape => .mk (shape.fronted first) none)).map Node.shape
        = listed.map (Shape.fronted first) := by
    induction listed with
    | nil => rfl
    | cons shape rest ih =>
        rw [List.map_cons, Node.forestOrder_cons, List.map_cons, List.map_append, ih]
        rfl
  exact leaves tree.shapes

theorem SameContents.fronted (first : DeclId) (tree : Tree)
    : SameContents (· = ·) tree (tree.fronted first) where
  source := rfl
  decls := .fronted first tree.decls
  nodes := by
    rw [shapes_fronted]
    constructor
    · exact fun shape member => ⟨_, List.mem_map_of_mem member, .fronted first shape⟩
    · intro other member
      obtain ⟨shape, listed, rfl⟩ := List.mem_map.mp member
      exact ⟨shape, listed, .fronted first shape⟩
  macros _ := Iff.rfl

/-- A tree that is not settled is not highlighted in some order of its candidates. -/
theorem exists_endless (tree : Tree) (unsettled : ¬ tree.Settled)
    : ∃ other, SameContents (· = ·) tree other ∧ other.highlights = .error .typedefs := by
  simp only [Settled, not_forall] at unsettled
  obtain ⟨shape, member, first, asked, unknown⟩ := unsettled
  have endless : tree.decls.kindOf first = .error .typedefs := by
    match searched : tree.decls.kindOf first with
    | .ok kind => exact absurd ⟨kind, searched⟩ unknown
    | .error .typedefs => rfl
  refine ⟨tree.fronted first, .fronted first tree, ?_⟩
  obtain ⟨question, posed, unanswered⟩ := Shape.exists_endless_fronted asked endless
  match found : (tree.fronted first).highlights with
  | .error .typedefs => rfl
  | .ok highlights =>
      have answered := (tree.fronted first).exists_highlights_iff.mp ⟨highlights, found⟩
      rw [shapes_fronted] at answered
      obtain ⟨kind, ended⟩ := answered _ (List.mem_map_of_mem member) question posed
      rw [unanswered] at ended
      contradiction

-----------------------------------------------------------------------------------------
-- Highlights of the same contents
-----------------------------------------------------------------------------------------

variable {tree twin : Tree}

/-- Trees of the same text with the same nodes, whatever their order and nesting, have the same
canonical tokens and the same diagnostics, and each diagnostic as often if they have each node as
often. Both are highlighted or neither is, if the candidates of one tree are settled; if they are
not, there is no end to it in another order of them. Without cycles of typedefs they are settled,
and the tree is highlighted.
-/
theorem highlights_of_sameContents (contents : SameContents same tree twin)
    : (∀ found others,
          tree.highlights = .ok found
          → twin.highlights = .ok others
          → found.tokens = others.tokens
            ∧ (∀ place, place ∈ found.diagnostics ↔ place ∈ others.diagnostics)
            ∧ (SameCounts same tree twin → found.diagnostics.Perm others.diagnostics))
      ∧ (tree.Settled
        → ((∃ found, tree.highlights = .ok found) ↔ ∃ others, twin.highlights = .ok others))
      ∧ (¬ tree.Settled
        → ∃ other, SameContents (· = ·) tree other ∧ other.highlights = .error .typedefs)
      ∧ (tree.decls.Grounded → tree.Settled ∧ ∃ found, tree.highlights = .ok found) :=
  ⟨fun _ _ => contents.highlights_eq, contents.exists_highlights_iff, tree.exists_endless,
    exists_highlights⟩

/-- A name with two candidates, and below it a variable, below which no token starts at a place. -/
def nested : Tree where
  source := .ofText "main.cpp" "call it"
  nodes :=
    [.mk
      (.overloadRef (some (.file ⟨"main.cpp", ⟨0, 0⟩⟩)) ⟨.identifier, "call"⟩ ["first", "second"])
      (some
        [.mk (.declRef (some (.file ⟨"main.cpp", ⟨0, 5⟩⟩)) ⟨.identifier, "it"⟩ "variable")
          (some [.mk (.dependentTypeRef (some (.file ⟨"main.cpp", ⟨0, 4⟩⟩))) none])])]
  macros := [.between 1 0 1 3, .between 2 0 2 3]
  decls :=
    ⟨[⟨"first", ⟨.identifier, "call"⟩, none, .function⟩,
      ⟨"second", ⟨.identifier, "call"⟩, none, .usingShadow (some "first")⟩,
      ⟨"variable", ⟨.identifier, "it"⟩, none, .variableName .global⟩]⟩

/-- The same nodes side by side in another order, one of them twice, with other ids. -/
def flat : Tree where
  source := .ofText "main.cpp" "call it"
  nodes :=
    [.mk (.dependentTypeRef (some (.file ⟨"main.cpp", ⟨0, 4⟩⟩))) none,
      .mk (.declRef (some (.file ⟨"main.cpp", ⟨0, 5⟩⟩)) ⟨.identifier, "it"⟩ "2") (some []),
      .mk (.overloadRef (some (.file ⟨"main.cpp", ⟨0, 0⟩⟩)) ⟨.identifier, "call"⟩ ["1", "0", "1"])
        none,
      .mk (.declRef (some (.file ⟨"main.cpp", ⟨0, 5⟩⟩)) ⟨.identifier, "it"⟩ "2") none]
  macros := [.between 2 0 2 3, .between 1 0 1 3, .between 2 0 2 3]
  decls :=
    ⟨[⟨"2", ⟨.identifier, "it"⟩, none, .variableName .global⟩,
      ⟨"1", ⟨.identifier, "call"⟩, none, .usingShadow (some "0")⟩,
      ⟨"0", ⟨.identifier, "call"⟩, none, .function⟩]⟩

/-- Which ids of the two trees stand for the same. -/
def renamed (one another : DeclId) : Prop :=
  (one, another) ∈ [("first", "0"), ("second", "1"), ("variable", "2")]

theorem highlights_of_sameContents_flat
    : SameContents renamed nested flat
      ∧ nested.Settled
      ∧ ∃ found others,
          nested.highlights = .ok found
          ∧ flat.highlights = .ok others
          ∧ found.tokens = others.tokens
          ∧ found.diagnostics = [⟨"main.cpp", ⟨0, 4⟩⟩]
          ∧ ∀ place, place ∈ found.diagnostics ↔ place ∈ others.diagnostics := by
  have contents : SameContents renamed nested flat := by
    refine ⟨rfl, ?_, ?_, ?_⟩
    · intro one another related
      simp only [renamed, List.mem_cons, List.not_mem_nil, or_false, Prod.mk.injEq] at related
      rcases related with ⟨rfl, rfl⟩ | ⟨rfl, rfl⟩ | ⟨rfl, rfl⟩
      · exact .some ⟨rfl, rfl, .plain rfl⟩
      · exact .some ⟨rfl, rfl, .usingShadow (.some (by simp [renamed]))⟩
      · exact .some ⟨rfl, rfl, .plain rfl⟩
    · have call
          : Shape.Alike renamed
              (.overloadRef (some (.file ⟨"main.cpp", ⟨0, 0⟩⟩)) ⟨.identifier, "call"⟩
                ["first", "second"])
              (.overloadRef (some (.file ⟨"main.cpp", ⟨0, 0⟩⟩)) ⟨.identifier, "call"⟩
                ["1", "0", "1"]) :=
        .overloadRef _ _ (by simp [SameElements, renamed])
      have it
          : Shape.Alike renamed
              (.declRef (some (.file ⟨"main.cpp", ⟨0, 5⟩⟩)) ⟨.identifier, "it"⟩ "variable")
              (.declRef (some (.file ⟨"main.cpp", ⟨0, 5⟩⟩)) ⟨.identifier, "it"⟩ "2") :=
        .declRef _ _ (by simp [renamed])
      have gap
          : Shape.Alike renamed (.dependentTypeRef (some (.file ⟨"main.cpp", ⟨0, 4⟩⟩)))
              (.dependentTypeRef (some (.file ⟨"main.cpp", ⟨0, 4⟩⟩))) :=
        .plain rfl
      simp only [SameElements, shapes, nested, flat, Node.forestOrder, Node.preorderFrom,
        Node.preorder, Node.shape, List.map_cons, List.map_nil, List.nil_append, List.append_nil,
        List.cons_append, List.mem_cons, List.not_mem_nil, or_false,
        exists_eq_or_imp, exists_eq_left, forall_eq_or_imp, forall_eq]
      exact ⟨⟨.inr (.inr (.inl call)), .inr (.inl it), .inl gap⟩, .inr (.inr gap), .inr (.inl it),
        .inl call, .inr (.inl it)⟩
    · intro range
      simp only [nested, flat, List.mem_cons, List.not_mem_nil, or_false]
      tauto
  have grounded : nested.decls.Grounded := DeclTable.grounded_of_rank (fun _ => 0) (by decide)
  obtain ⟨both, either, -, ended⟩ := highlights_of_sameContents contents
  obtain ⟨settled, found, highlighted⟩ := ended grounded
  obtain ⟨others, again⟩ := (either settled).mp ⟨found, highlighted⟩
  obtain ⟨tokens, diagnostics, -⟩ := both found others highlighted again
  have one : nested.highlights.map Highlights.diagnostics = .ok [⟨"main.cpp", ⟨0, 4⟩⟩] := by
    decide +kernel
  rw [highlighted] at one
  exact ⟨contents, settled, found, others, highlighted, again, tokens, Except.ok.inj one,
    diagnostics⟩

/-- A member function that a name may mean. -/
def callMethod : Decl := ⟨"method", ⟨.identifier, "call"⟩, none, .method false⟩

/-- A field of that name. -/
def callField : Decl := ⟨"field", ⟨.identifier, "call"⟩, none, .field⟩

/-- A typedef of that name, which stands for itself. -/
def callCycle : Decl := ⟨"cycle", ⟨.identifier, "call"⟩, none, .typedef (some (.tag "cycle"))⟩

/-- The name with some of them as its candidates. What is read last is in front in the table. -/
def calling (candidates : List Decl) : Tree where
  source := .ofText "main.cpp" "call"
  nodes :=
    [.mk
      (.overloadRef (some (.file ⟨"main.cpp", ⟨0, 0⟩⟩)) ⟨.identifier, "call"⟩
        (candidates.map Decl.id))
      none]
  macros := []
  decls := ⟨candidates.reverse⟩

/-- What describes the name with all of them, in some order. -/
def callingJson (candidates : List DeclId) : Json :=
  .object [("mainFile", .string "main.cpp"), ("text", .string "call"),
    ("decls", .object [
      ("method", .object [("kind", .string "Method"), ("name", .string "call"),
        ("isStatic", .bool false)]),
      ("field", .object [("kind", .string "Field"), ("name", .string "call")]),
      ("cycle", .object [("kind", .string "Typedef"), ("name", .string "call"),
        ("underlying", .object [("kind", .string "Tag"), ("decl", .string "cycle")])])]),
    ("nodes", .array [.object [("shape", .string "overloadRef"),
      ("location", .object [("line", .int 0), ("character", .int 0)]), ("name", .string "call"),
      ("candidates", .array (candidates.map .string))]])]

theorem sameContents_calling
    : SameContents (· = ·) (calling [callMethod, callField, callCycle])
        (calling [callCycle, callMethod, callField]) where
  source := rfl
  decls := by
    intro one another equal
    subst equal
    have found
        : (calling [callMethod, callField, callCycle]).decls.find? one
          = (calling [callCycle, callMethod, callField]).decls.find? one := by
      simp only [DeclTable.find?, calling, callMethod, callField, callCycle, List.reverse_cons,
        List.reverse_nil, List.nil_append, List.cons_append, List.find?_cons]
      grind
    rw [found]
    exact DeclTable.Alike.refl _ one one rfl
  nodes := by
    have call (candidates : List Decl)
        : (calling candidates).shapes
          = [.overloadRef (some (.file ⟨"main.cpp", ⟨0, 0⟩⟩)) ⟨.identifier, "call"⟩
              (candidates.map Decl.id)] := by
      rfl
    have pair
        : Shape.Alike (· = ·)
            (.overloadRef (some (.file ⟨"main.cpp", ⟨0, 0⟩⟩)) ⟨.identifier, "call"⟩
              ["method", "field", "cycle"])
            (.overloadRef (some (.file ⟨"main.cpp", ⟨0, 0⟩⟩)) ⟨.identifier, "call"⟩
              ["cycle", "method", "field"]) :=
      .overloadRef _ _ (by simp [SameElements])
    simp only [call, SameElements, List.mem_singleton, exists_eq_left, forall_eq]
    exact ⟨pair, pair⟩
  macros _ := Iff.rfl

/-- A typedef of itself is not looked at behind two candidates that disagree, and never left in
front of them.
-/
theorem highlights_of_sameContents_cycle
    : (calling [callMethod, callField, callCycle]).Resolved
      ∧ (calling [callCycle, callMethod, callField]).Resolved
      ∧ SameContents (· = ·) (calling [callMethod, callField, callCycle])
          (calling [callCycle, callMethod, callField])
      ∧ (calling [callMethod, callField, callCycle]).highlights
        = .ok ⟨[.ofKind .dependentName (.between 0 0 0 4)], []⟩
      ∧ (calling [callCycle, callMethod, callField]).highlights = .error .typedefs := by
  have behind
      : Tree.read (callingJson ["method", "field", "cycle"])
        = .ok (calling [callMethod, callField, callCycle]) := by
    cbv
  have before
      : Tree.read (callingJson ["cycle", "method", "field"])
        = .ok (calling [callCycle, callMethod, callField]) := by
    cbv
  exact ⟨resolved_of_read behind, resolved_of_read before, sameContents_calling, by decide +kernel,
    by decide +kernel⟩

end Tree

end Highlighter
