import Highlighter.Proofs.Tree.Questions

/-! The walk with a stack is the traversal in pre-order. What is on the stack is a forest whose
pre-order is still to be visited, so one visit takes the first node of that order and leaves the
rest of it; tokens and diagnostics are those of the single visits, one after another. If a visit
does not end, it is the last one.
-/

namespace Highlighter

namespace Node

-----------------------------------------------------------------------------------------
-- Pre-order
-----------------------------------------------------------------------------------------

/-- A tree in pre-order is its root and the forest of its children, whether or not it says
something of them.
-/
theorem preorder_eq (node : Node)
    : node.preorder = ([], node) :: preorderFrom 0 node.children := by
  match node with
  | mk shape none => rw [preorder, children, preorderFrom]
  | mk shape (some nodes) => rw [preorder, children]

/-- The nodes of a forest do not depend on where its first tree stands. -/
theorem preorderFrom_nodes (position : Nat) (nodes : List Node)
    : (preorderFrom position nodes).map Prod.snd = forestOrder nodes := by
  have shifted
      : ∀ other, (preorderFrom position nodes).map Prod.snd
          = (preorderFrom other nodes).map Prod.snd := by
    intro other
    induction nodes generalizing position other with
    | nil => rfl
    | cons node rest ih =>
        rw [preorderFrom, preorderFrom, List.map_append, List.map_append, List.map_map,
          List.map_map, ih (position + 1) (other + 1)]
        rfl
  exact shifted 0

/-- A forest in pre-order: a root, what is below it, and the other trees. -/
theorem forestOrder_cons (node : Node) (rest : List Node)
    : forestOrder (node :: rest)
      = node :: (forestOrder node.children ++ forestOrder rest) := by
  rw [forestOrder, preorderFrom, List.map_append, preorderFrom_nodes, List.map_map, preorder_eq,
    List.map_cons, List.cons_append]
  rfl

/-- Two forests side by side are in pre-order one after the other. -/
theorem forestOrder_append (front back : List Node)
    : forestOrder (front ++ back) = forestOrder front ++ forestOrder back := by
  induction front with
  | nil => rfl
  | cons node rest ih =>
      rw [List.cons_append, forestOrder_cons, forestOrder_cons, ih, List.cons_append,
        List.append_assoc]

-----------------------------------------------------------------------------------------
-- Addresses
-----------------------------------------------------------------------------------------

/-- The addresses of a forest begin with the position of one of its trees. -/
theorem position_of_mem {position : Nat} {nodes : List Node} {entry : List Nat × Node}
    (member : entry ∈ preorderFrom position nodes)
    : ∃ later address, position ≤ later ∧ entry.1 = later :: address := by
  induction nodes generalizing position with
  | nil => simp [preorderFrom] at member
  | cons node rest ih =>
      rw [preorderFrom] at member
      rcases List.mem_append.mp member with inside | after
      · obtain ⟨inner, _, rfl⟩ := List.mem_map.mp inside
        exact ⟨position, inner.1, Nat.le_refl position, rfl⟩
      · obtain ⟨later, address, behind, shown⟩ := ih after
        exact ⟨later, address, by omega, shown⟩

mutual
/-- Pre-order goes up in the order of addresses: a node stands before what is below it, and a
sibling with all below it before the next one.
-/
theorem preorder_ascending (node : Node) : (node.preorder.map Prod.fst).Pairwise (· < ·) := by
  match node with
  | mk shape none => simp [preorder]
  | mk shape (some nodes) =>
      rw [preorder, List.map_cons, List.pairwise_cons]
      refine ⟨?_, preorderFrom_ascending 0 nodes⟩
      intro address member
      obtain ⟨entry, inside, rfl⟩ := List.mem_map.mp member
      obtain ⟨later, address, _, shown⟩ := position_of_mem inside
      rw [shown]
      exact List.nil_lt_cons later address

/-- So does the pre-order of a forest. -/
theorem preorderFrom_ascending (position : Nat) (nodes : List Node)
    : ((preorderFrom position nodes).map Prod.fst).Pairwise (· < ·) := by
  match nodes with
  | [] => simp [preorderFrom]
  | node :: rest =>
      rw [preorderFrom, List.map_append, List.pairwise_append]
      refine ⟨?_, preorderFrom_ascending (position + 1) rest, ?_⟩
      · rw [List.map_map]
        have inner := preorder_ascending node
        rw [List.pairwise_map] at inner ⊢
        exact inner.imp fun less => List.cons_lt_cons_iff.mpr (.inr ⟨rfl, less⟩)
      · intro first inFirst second inRest
        rw [List.map_map] at inFirst
        obtain ⟨before, _, rfl⟩ := List.mem_map.mp inFirst
        obtain ⟨after, member, rfl⟩ := List.mem_map.mp inRest
        obtain ⟨later, address, behind, shown⟩ := position_of_mem member
        rw [shown]
        exact List.cons_lt_cons_iff.mpr (.inl (by omega))
end

mutual
/-- The entries of a tree are its nodes at their addresses. -/
theorem mem_preorder (node found : Node) (address : List Nat)
    : (address, found) ∈ node.preorder ↔ node.below? address = some found := by
  match node with
  | mk shape none =>
      cases address with
      | nil => simp [preorder, below?, eq_comm]
      | cons position address => simp [preorder, below?, children]
  | mk shape (some nodes) =>
      rw [preorder, List.mem_cons, mem_preorderFrom 0 nodes found address]
      cases address with
      | nil => simp [below?, eq_comm]
      | cons position address =>
          simp [below?, children]

/-- The entries of a forest are its nodes, at addresses that count its trees from the position. -/
theorem mem_preorderFrom (position : Nat) (nodes : List Node) (found : Node)
    (address : List Nat)
    : (address, found) ∈ preorderFrom position nodes
      ↔ ∃ offset rest,
          address = (position + offset) :: rest
          ∧ (nodes[offset]?.bind fun node => node.below? rest) = some found := by
  match nodes with
  | [] => simp [preorderFrom]
  | node :: others =>
      rw [preorderFrom, List.mem_append, mem_preorderFrom (position + 1) others found address]
      constructor
      · rintro (inside | ⟨offset, rest, rfl, there⟩)
        · obtain ⟨⟨inner, same⟩, member, shown⟩ := List.mem_map.mp inside
          obtain ⟨rfl, rfl⟩ := Prod.mk.inj shown
          exact ⟨0, inner, rfl, (mem_preorder node same inner).mp member⟩
        · exact ⟨offset + 1, rest, by rw [Nat.add_right_comm, Nat.add_assoc], there⟩
      · rintro ⟨offset, rest, rfl, there⟩
        cases offset with
        | zero =>
            have member := (mem_preorder node found rest).mpr there
            exact .inl (List.mem_map.mpr ⟨(rest, found), member, rfl⟩)
        | succ offset =>
            exact .inr ⟨offset, rest, by rw [Nat.add_right_comm, Nat.add_assoc], there⟩
end

/-- A forest in pre-order lists the nodes at all its addresses. -/
theorem mem_forest (nodes : List Node) (found : Node) (address : List Nat)
    : (address, found) ∈ preorderFrom 0 nodes ↔ at? nodes address = some found := by
  rw [mem_preorderFrom]
  cases address with
  | nil => simp [at?]
  | cons position rest => simp [at?]

end Node

-----------------------------------------------------------------------------------------
-- One visit
-----------------------------------------------------------------------------------------

namespace Highlights

/-- Emissions add their tokens and their diagnostics, in their order. -/
theorem foldl_add (emissions : List Emission) (found : Highlights)
    : emissions.foldl add found
      = ⟨found.tokens ++ emissions.filterMap Emission.token?,
          found.diagnostics ++ emissions.filterMap Emission.diagnostic?⟩ := by
  induction emissions generalizing found with
  | nil => simp
  | cons emission rest ih =>
      rw [List.foldl_cons, ih, List.filterMap_cons, List.filterMap_cons]
      cases emission <;> simp [add, Emission.token?, Emission.diagnostic?]

variable {tree : Tree} {node : Node}

/-- A visit adds what the occurrences of the node lead to, if it has them. -/
theorem visit_of_occurrences {own : List Occurrence}
    (answered : node.shape.occurrences tree.decls = .ok own) (found : Highlights)
    : found.visit tree node
      = .ok ((own.filterMap (Emission.ofOccurrence tree.source)).foldl add found) := by
  rw [visit, Emission.ofShape, answered]
  rfl

theorem visit_of_fault {fault : Endless}
    (endless : node.shape.occurrences tree.decls = .error fault) (found : Highlights)
    : found.visit tree node = .error fault := by
  rw [visit, Emission.ofShape, endless]
  rfl

/-- A visit adds what the node alone emits. -/
theorem visit_eq {alone : Highlights} (emitted : empty.visit tree node = .ok alone)
    (found : Highlights)
    : found.visit tree node
      = .ok ⟨found.tokens ++ alone.tokens, found.diagnostics ++ alone.diagnostics⟩ := by
  cases answered : node.shape.occurrences tree.decls with
  | error fault =>
      rw [visit_of_fault answered] at emitted
      contradiction
  | ok own =>
      rw [visit_of_occurrences answered] at emitted ⊢
      rw [← Except.ok.inj emitted, foldl_add, foldl_add]
      rfl

/-- Visits add what the single nodes emit, in their order. -/
theorem foldlM_visit {alone : Node → Highlights}
    (emitted : ∀ node, empty.visit tree node = .ok (alone node)) (nodes : List Node)
    (found : Highlights)
    : nodes.foldlM (fun found node => found.visit tree node) found
      = .ok ⟨found.tokens ++ nodes.flatMap fun node => (alone node).tokens,
          found.diagnostics ++ nodes.flatMap fun node => (alone node).diagnostics⟩ := by
  induction nodes generalizing found with
  | nil => simp [pure, Except.pure]
  | cons node rest ih =>
      rw [List.foldlM_cons, visit_eq (emitted node)]
      simp only [bind, Except.bind, ih, List.flatMap_cons, List.append_assoc]

end Highlights

namespace Walker

variable {tree : Tree}

/-- The stack that has the first of these nodes on top. -/
def stacked (nodes : List Node) : Array Node := nodes.reverse.toArray

/-- Children are stacked in front of what was there, so the first child comes next. -/
theorem push_stacked (children nodes : List Node)
    : push (stacked nodes) children = stacked (children ++ nodes) := by
  unfold push stacked
  induction children with
  | nil => rfl
  | cons child rest ih =>
      rw [List.foldr_cons, ih, List.push_toArray, List.cons_append, List.reverse_cons]

/-- Nothing is visited when nothing is stacked. -/
theorem step?_nil (found : Highlights) : step? tree ⟨stacked [], found⟩ = none := rfl

/-- The node on top is visited, and its children take its place. -/
theorem step?_cons (node : Node) (rest : List Node) (found : Highlights)
    : step? tree ⟨stacked (node :: rest), found⟩
      = some (node,
          (found.visit tree node).map fun found => ⟨stacked (node.children ++ rest), found⟩) := by
  have top : (stacked (node :: rest)).back? = some node := by simp [stacked]
  have below : (stacked (node :: rest)).pop = stacked rest := by simp [stacked]
  rw [step?, top, below, Option.map_some, push_stacked]

/-- A walk goes only one way, each step being the only one. -/
theorem Visits.unique {walker : Walker} {nodes others : List Node}
    {result other : Except Endless Highlights} (visits : Visits tree walker nodes result)
    (again : Visits tree walker others other)
    : others = nodes ∧ other = result := by
  induction visits generalizing others other with
  | ended stop =>
      cases again with
      | ended _ => exact ⟨rfl, rfl⟩
      | next step _ | lost step => simp [stop] at step
  | next step _ ih =>
      cases again with
      | ended stop => simp [stop] at step
      | next again rest =>
          obtain ⟨rfl, same⟩ := Prod.mk.inj (Option.some.inj (step.symm.trans again))
          obtain rfl := Except.ok.inj same
          obtain ⟨rfl, rfl⟩ := ih rest
          exact ⟨rfl, rfl⟩
      | lost again => simp [step] at again
  | lost step =>
      cases again with
      | ended stop => simp [stop] at step
      | next again _ => simp [step] at again
      | lost again =>
          obtain ⟨rfl, same⟩ := Prod.mk.inj (Option.some.inj (step.symm.trans again))
          obtain rfl := Except.error.inj same
          exact ⟨rfl, rfl⟩

/-- A stack is walked in the pre-order of its nodes, up to the first visit that does not end, by
induction on how many nodes are in them.
-/
theorem exists_visits_stacked (nodes : List Node) (found : Highlights)
    : ∃ visited,
        Visits tree ⟨stacked nodes, found⟩ visited
            ((Node.forestOrder nodes).foldlM (fun found node => found.visit tree node) found)
        ∧ visited <+: Node.forestOrder nodes
        ∧ ∀ last,
            (Node.forestOrder nodes).foldlM (fun found node => found.visit tree node) found
              = .ok last
            → visited = Node.forestOrder nodes := by
  match nodes with
  | [] => exact ⟨[], .ended (step?_nil found), List.prefix_refl _, fun _ _ => rfl⟩
  | node :: rest =>
      rw [Node.forestOrder_cons, List.foldlM_cons, ← Node.forestOrder_append]
      have step : step? tree ⟨stacked (node :: rest), found⟩ = _ := step?_cons node rest found
      cases visit : found.visit tree node with
      | error fault =>
          rw [visit] at step
          exact ⟨[node], .lost step, by simp, fun _ ended => by contradiction⟩
      | ok more =>
          rw [visit] at step
          obtain ⟨visited, visits, first, whole⟩ :=
            exists_visits_stacked (node.children ++ rest) more
          refine ⟨node :: visited, .next step visits, List.cons_prefix_cons.mpr ⟨rfl, first⟩, ?_⟩
          exact fun last ended => congrArg (node :: ·) (whole last ended)
termination_by Node.sizeAll nodes
decreasing_by
  simp only [Node.sizeAll_append, Node.sizeAll, Node.size_eq]
  omega

end Walker

-----------------------------------------------------------------------------------------
-- The whole walk
-----------------------------------------------------------------------------------------

/-- A stack of nodes emits what the answers to the questions of all its nodes in pre-order lead to.
-/
theorem Emission.ofStack_eq (table : DeclTable) (source : Source) (nodes : List Node)
    : ofStack table source nodes
      = (((Node.forestOrder nodes).flatMap fun node => node.shape.questions table).mapM
          Question.answer).map
          fun occurrences => occurrences.filterMap (ofOccurrence source) := by
  match nodes with
  | [] =>
      rw [ofStack]
      rfl
  | node :: rest =>
      rw [ofStack, ofStack_eq table source (node.children ++ rest), Node.forestOrder_append,
        Node.forestOrder_cons, List.flatMap_cons, List.mapM_append]
      show (do
        let here ← (node.shape.occurrences table).map _
        _) = (do
          let here ← node.shape.occurrences table
          _).map _
      cases node.shape.occurrences table with
      | error fault => rfl
      | ok here =>
          cases ((Node.forestOrder node.children ++ Node.forestOrder rest).flatMap
              fun node => node.shape.questions table).mapM Question.answer with
          | error fault => rfl
          | ok later => exact congrArg Except.ok List.filterMap_append.symm
termination_by Node.sizeAll nodes
decreasing_by
  simp only [Node.sizeAll_append, Node.sizeAll, Node.size_eq]
  omega

namespace Tree

variable {tree : Tree}

/-- The walk of a tree finds what its occurrences lead to, if it has them. -/
theorem walk_eq (tree : Tree)
    : tree.walk
      = tree.occurrences.map fun occurrences =>
          (occurrences.filterMap (Emission.ofOccurrence tree.source)).foldl .add .empty := by
  rw [walk, emissions, Emission.ofStack_eq, occurrences, questions]
  cases ((Node.forestOrder tree.nodes).flatMap fun node => node.shape.questions tree.decls).mapM
      Question.answer with
  | error fault => rfl
  | ok occurrences => exact congrArg Except.ok (Highlights.foldl_add _ .empty).symm

/-- Visits find what the answers to the questions of the visited nodes lead to, by induction over
the nodes.
-/
theorem foldlM_visit_eq (tree : Tree) (nodes : List Node) (found : Highlights)
    : nodes.foldlM (fun found node => found.visit tree node) found
      = ((nodes.flatMap fun node => node.shape.questions tree.decls).mapM Question.answer).map
          fun occurrences =>
            (occurrences.filterMap (Emission.ofOccurrence tree.source)).foldl .add found := by
  induction nodes generalizing found with
  | nil => rfl
  | cons node rest ih =>
      rw [List.foldlM_cons, List.flatMap_cons, List.mapM_append]
      cases answered : node.shape.occurrences tree.decls with
      | error fault =>
          rw [Highlights.visit_of_fault answered, ← Shape.occurrences, answered]
          rfl
      | ok own =>
          rw [Highlights.visit_of_occurrences answered, ← Shape.occurrences, answered]
          refine (ih _).trans ?_
          cases (rest.flatMap fun node => node.shape.questions tree.decls).mapM Question.answer with
          | error fault => rfl
          | ok others =>
              show Except.ok _ = Except.ok (List.foldl _ _ (List.filterMap _ (own ++ others)))
              rw [List.filterMap_append, List.foldl_append]

/-- What a tree has is found by visiting its nodes in pre-order one after another. -/
theorem walk_eq_foldlM (tree : Tree)
    : tree.walk
      = (Node.forestOrder tree.nodes).foldlM (fun found node => found.visit tree node) .empty := by
  rw [walk_eq, foldlM_visit_eq, occurrences, questions]

/-- The walk of a tree ends, with all its nodes visited if every visit ends. -/
theorem exists_visits (tree : Tree)
    : ∃ visited,
        Walker.Visits tree (.start tree) visited tree.walk
        ∧ visited <+: Node.forestOrder tree.nodes
        ∧ ∀ found, tree.walk = .ok found → visited = Node.forestOrder tree.nodes := by
  rw [walk_eq_foldlM, Walker.start, List.reverse_toArray]
  exact Walker.exists_visits_stacked tree.nodes .empty

/-- Without cycles of typedefs a walk finds something. -/
theorem exists_walk (grounded : tree.decls.Grounded) : ∃ found, tree.walk = .ok found := by
  obtain ⟨occurrences, answered⟩ := exists_occurrences grounded
  exact ⟨_, by rw [walk_eq, answered]; rfl⟩

/-- The walk of a tree is its traversal in pre-order. It is over when every node has been visited,
at each address once, in the order of addresses; what it finds are the tokens and the diagnostics
of the single nodes in that order. Kinds are found meanwhile, if no typedef leads back to itself.
-/
theorem walk_preorder (grounded : tree.decls.Grounded)
    : (∀ id,
          ∃ kind,
            tree.decls.kindOf id = .ok kind
            ∧ ∀ other, tree.decls.Classifies id other ↔ other = kind)
      ∧ (∀ address node,
          (address, node) ∈ Node.preorderFrom 0 tree.nodes
          ↔ Node.at? tree.nodes address = some node)
      ∧ ((Node.preorderFrom 0 tree.nodes).map Prod.fst).Pairwise (· < ·)
      ∧ ∃ (found : Highlights) (alone : Node → Highlights),
          tree.walk = .ok found
          ∧ (∀ nodes result,
              Walker.Visits tree (.start tree) nodes result
              ↔ nodes = Node.forestOrder tree.nodes ∧ result = .ok found)
          ∧ (∀ node, Highlights.empty.visit tree node = .ok (alone node))
          ∧ found.tokens = (Node.forestOrder tree.nodes).flatMap (fun node => (alone node).tokens)
          ∧ found.diagnostics
            = (Node.forestOrder tree.nodes).flatMap (fun node => (alone node).diagnostics) := by
  have each : ∀ node : Node, ∃ own, Highlights.empty.visit tree node = .ok own := by
    intro node
    obtain ⟨own, answered⟩ := grounded.exists_occurrences node.shape
    exact ⟨_, Highlights.visit_of_occurrences answered .empty⟩
  obtain ⟨alone, emitted⟩ := Classical.skolem.mp each
  have walked : tree.walk = .ok _ :=
    tree.walk_eq_foldlM.trans (Highlights.foldlM_visit emitted (Node.forestOrder tree.nodes) .empty)
  obtain ⟨visited, visits, -, whole⟩ := tree.exists_visits
  obtain rfl := whole _ walked
  rw [walked] at visits
  refine ⟨grounded.exists_classifies, fun address node => Node.mem_forest tree.nodes node address,
    Node.preorderFrom_ascending 0 tree.nodes, _, alone, walked, fun nodes result => ?_, emitted,
    rfl, rfl⟩
  exact ⟨visits.unique, fun ⟨same, ended⟩ => by rw [same, ended]; exact visits⟩

/-- A tree whose declarations wrap each other: two share what they wrap, and two others wrap each
other. One of its nodes is at a place where no token starts.
-/
def wrapped : Tree where
  source := .ofText "main.cpp" "Name shared cycle"
  nodes :=
    [.mk (.typedefTypeRef (some (.file ⟨"main.cpp", ⟨0, 0⟩⟩)) "alias")
      (some
        [.mk (.declRef (some (.file ⟨"main.cpp", ⟨0, 5⟩⟩)) ⟨.identifier, "shared"⟩ "shared")
          (some [.mk (.dependentTypeRef (some (.file ⟨"main.cpp", ⟨0, 4⟩⟩))) none]),
        .mk (.declRef (some (.file ⟨"main.cpp", ⟨0, 12⟩⟩)) ⟨.identifier, "cycle"⟩ "there") none]),
      .mk (.declRef (some (.file ⟨"main.cpp", ⟨0, 0⟩⟩)) ⟨.identifier, "Name"⟩ "again") none]
  macros := []
  decls :=
    ⟨[⟨"class", ⟨.identifier, "Name"⟩, none, .record false⟩,
      ⟨"shared", ⟨.identifier, "shared"⟩, none, .usingShadow (some "class")⟩,
      ⟨"again", ⟨.identifier, "Name"⟩, none, .template (some "class")⟩,
      ⟨"alias", ⟨.identifier, "Name"⟩, none, .typedef (some (.tag "shared"))⟩,
      ⟨"there", ⟨.identifier, "cycle"⟩, none, .usingShadow (some "back")⟩,
      ⟨"back", ⟨.identifier, "cycle"⟩, none, .usingShadow (some "there")⟩]⟩

/-- The walk of that tree ends, with the kinds behind the wrappers that lead somewhere. -/
theorem walk_preorder_wrapped
    : wrapped.decls.Grounded
      ∧ Walker.Visits wrapped (.start wrapped) (Node.forestOrder wrapped.nodes) wrapped.walk
      ∧ wrapped.walk
        = .ok ⟨[.ofKind .classType (.between 0 0 0 4), .ofKind .classType (.between 0 5 0 11),
            .ofKind .classType (.between 0 0 0 4)], [⟨"main.cpp", ⟨0, 4⟩⟩]⟩ := by
  have grounded : wrapped.decls.Grounded :=
    DeclTable.grounded_of_rank (fun id => if id = "alias" then 1 else 0) (by decide)
  obtain ⟨_, _, _, found, _, walked, visits, _⟩ := walk_preorder grounded
  exact ⟨grounded, (visits _ _).mpr ⟨rfl, walked⟩, by decide +kernel⟩

end Tree

end Highlighter
