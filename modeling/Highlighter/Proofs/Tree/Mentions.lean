import Highlighter.Proofs.Tree.Preorder
import Highlighter.Proofs.Tree.Reads
import Highlighter.Tree.Written

/-! What a part of a tree mentions its written form refers to. Each part that mentions declarations
is written with a field for them, so the rules are those for the fields of objects.
-/

namespace Highlighter

open Json (lookup)

namespace Written

open Grammar

variable {mainFile : String} {members : Members} {id : DeclId}

/-- An object has the fields that the word gives it that it is called by. -/
theorem mem_oneOf {variants : Variants} {key word : String} {field : Field}
    (found : lookup key members = some (.string word))
    (own : field ∈ (variants.lookup word).getD [])
    : field ∈ oneOf variants key members := by
  simp [oneOf, found, own]

/-- An object refers to what one of its members refers to. -/
theorem refers_member {record : Record} {field : Field} {value : Json}
    (listed : field ∈ record.fields members) (found : lookup field.key members = some value)
    (refers : Refers field.form value id)
    : Refers (.record record) (.object members) id := by
  refine .record listed ?_ refers
  have present : value ≠ .null := by
    rintro rfl
    generalize field.form = form at refers
    cases refers with
    | name refers => nomatch refers
  unfold Field.value?
  rw [found]
  split
  next empty => exact absurd (Option.some.inj empty) present
  next => rfl

theorem refers_text {record : Record} {key : String}
    (listed : Grammar.required key .reference ∈ record.fields members)
    (written : required text (lookup key members) id)
    : Refers (.record record) (.object members) id :=
  refers_member listed (required_text.mp written) (.reference id)

theorem refers_optional {record : Record} {key : String} {part : Option DeclId}
    (listed : nullable key .reference ∈ record.fields members)
    (written : optional text (lookup key members) part) (mentioned : id ∈ part.toList)
    : Refers (.record record) (.object members) id := by
  obtain rfl := Option.mem_toList.mp mentioned
  exact refers_member listed (required_text.mp written) (.reference id)

theorem refers_ids {record : Record} {need : Need} {key : String} {part : List DeclId}
    (listed : ⟨key, need, .array .reference⟩ ∈ record.fields members)
    (written : required ids (lookup key members) part) (mentioned : id ∈ part)
    : Refers (.record record) (.object members) id :=
  refers_member listed (required_ids.mp written)
    (.array (List.mem_map.mpr ⟨id, mentioned, rfl⟩) (.reference id))

/-- What a type mentions its written form refers to, by induction on the type. -/
theorem refers_type {part : TypeRef} {json : Json} (written : type part json)
    (mentioned : id ∈ part.mentions)
    : Refers (.record .type) json id := by
  obtain ⟨members, rfl⟩ := object_of_type written
  match part with
  | .templateParameter decl =>
      obtain ⟨found, written⟩ := written
      have listed : nullable "decl" .reference ∈ Record.fields members .type :=
        mem_oneOf found List.mem_cons_self
      exact refers_optional listed written mentioned
  | .tag decl =>
      obtain ⟨found, written⟩ := written
      have listed : Grammar.required "decl" .reference ∈ Record.fields members .type :=
        mem_oneOf found List.mem_cons_self
      obtain rfl := List.mem_singleton.mp mentioned
      exact refers_text listed written
  | .sugared sugar (some underlying) =>
      obtain ⟨found, _, json, there, written⟩ := written
      have listed : nullable "underlying" (.record .type) ∈ Record.fields members .type :=
        mem_oneOf found (List.mem_cons_of_mem _ List.mem_cons_self)
      exact refers_member listed there (refers_type written mentioned)

theorem refers_optionalType {record : Record} {key : String} {part : Option TypeRef}
    (listed : nullable key (.record .type) ∈ record.fields members)
    (written : optional type (lookup key members) part)
    (mentioned : id ∈ part.toList.flatMap TypeRef.mentions)
    : Refers (.record record) (.object members) id := by
  cases part with
  | none => contradiction
  | some part =>
      obtain ⟨json, found, written⟩ := written
      have mentioned : id ∈ part.mentions := by simpa using mentioned
      exact refers_member listed found (refers_type written mentioned)

/-- What a declaration mentions its written form refers to, by cases on what is declared. -/
theorem refers_decl {part : Decl} {json : Json} (written : decl mainFile part json)
    (mentioned : id ∈ part.entity.mentions)
    : Refers (.record .declaration) json id := by
  obtain ⟨_, _, _, entity⟩ := part
  cases json with
  | object members =>
      obtain ⟨_, _, found, written⟩ := written
      have listed {field : Field} (own : field ∈ (declarations.lookup entity.word).getD [])
          : field ∈ Record.fields members .declaration :=
        List.mem_cons_of_mem _ (List.mem_cons_of_mem _ (mem_oneOf found own))
      cases entity with
      | usingShadow target =>
          exact refers_optional (listed List.mem_cons_self) written mentioned
      | template templated =>
          exact refers_optional (listed List.mem_cons_self) written mentioned
      | typedef underlying =>
          exact refers_optionalType (listed List.mem_cons_self) written mentioned
      | namespaceAlias aliased targetName =>
          have own := listed (List.mem_cons_of_mem _ List.mem_cons_self)
          exact refers_optional own written.1 mentioned
      | usingList shadows =>
          rcases written with ⟨_, rfl⟩ | written
          · contradiction
          · have own : Grammar.defaulted "shadows" (.array .reference)
                ∈ Record.fields members .declaration :=
              listed List.mem_cons_self
            exact refers_ids own written mentioned
      | _ => contradiction
  | _ => contradiction

/-- What a node mentions its written form refers to, by cases on what it is. -/
theorem refers_shape {part : Shape} (found : lookup "shape" members = some (.string part.word))
    (written : shape mainFile members part) (mentioned : id ∈ part.mentions)
    : Refers (.record .node) (.object members) id := by
  have listed {field : Field} (own : field ∈ (shapes.lookup part.word).getD [])
      : field ∈ Record.fields members .node :=
    List.mem_cons_of_mem _ (List.mem_cons_of_mem _ (mem_oneOf found own))
  cases part with
  | declaration decl placeholder =>
      obtain ⟨declared, stands⟩ := written
      rcases List.mem_cons.mp mentioned with rfl | mentioned
      · exact refers_text (listed List.mem_cons_self) declared
      · cases placeholder with
        | none => contradiction
        | some stood =>
            obtain ⟨location, deduced⟩ := stood
            obtain ⟨parts, there, _, written⟩ := stands
            have own : Grammar.defaulted "placeholder" (.record .placeholder)
                ∈ Record.fields members .node :=
              listed (List.mem_cons_of_mem _ List.mem_cons_self)
            have below : Refers (.record .placeholder) (.object parts) id :=
              refers_optionalType (by simp [Record.fields]) written mentioned
            exact refers_member own there below
  | declRef location name decl | memberAccess location name decl =>
      obtain ⟨_, _, written⟩ := written
      obtain rfl := List.mem_singleton.mp mentioned
      exact refers_text (listed (List.mem_cons_of_mem _ List.mem_cons_self)) written
  | typedefTypeRef location decl =>
      obtain ⟨_, written⟩ := written
      obtain rfl := List.mem_singleton.mp mentioned
      exact refers_text (listed List.mem_cons_self) written
  | overloadRef location name candidates =>
      obtain ⟨_, _, written⟩ := written
      have own : Grammar.required "candidates" (.array .reference) ∈ Record.fields members .node :=
        listed (List.mem_cons_of_mem _ List.mem_cons_self)
      exact refers_ids own written mentioned
  | templateSpecializationRef location decl | memberInitializer location decl =>
      obtain ⟨_, written⟩ := written
      exact refers_optional (listed List.mem_cons_self) written mentioned
  | tagTypeRef location type isDefinition =>
      obtain ⟨_, ⟨json, there, written⟩, _⟩ := written
      have own : Grammar.required "type" (.record .type) ∈ Record.fields members .node :=
        listed List.mem_cons_self
      exact refers_member own there (refers_type written mentioned)
  | decltypeRef location type =>
      obtain ⟨_, json, there, written⟩ := written
      have own : Grammar.required "type" (.record .type) ∈ Record.fields members .node :=
        listed List.mem_cons_self
      exact refers_member own there (refers_type written mentioned)
  | _ => contradiction

/-- The written form of a node is an object that says what the node is and, if there are any, lists
its children.
-/
theorem node_cases {part : Node} {json : Json} (written : node mainFile part json)
    : ∃ members items,
        json = .object members
        ∧ lookup "shape" members = some (.string part.shape.word)
        ∧ shape mainFile members part.shape
        ∧ nodes mainFile part.children items
        ∧ (items = [] ∨ lookup "children" members = some (.array items)) := by
  match part, json with
  | .mk own none, .object members =>
      exact ⟨members, [], rfl, written.2.1, written.2.2, rfl, .inl rfl⟩
  | .mk own (some children), .object members =>
      obtain ⟨⟨items, there, each⟩, found, shown⟩ := written
      exact ⟨members, items, rfl, found, shown, each, .inr there⟩

/-- What the nodes of a forest mention the written forms of its trees refer to, by recursion on the
number of its nodes.
-/
theorem refers_nodes {parts : List Node} {items : List Json}
    (written : nodes mainFile parts items) {part : Node} (below : part ∈ Node.forestOrder parts)
    (mentioned : id ∈ part.shape.mentions)
    : ∃ item ∈ items, Refers (.record .node) item id := by
  match parts with
  | first :: rest =>
      obtain ⟨item, others, rfl, here, later⟩ := written
      obtain ⟨members, items, rfl, found, shown, each, there⟩ := node_cases here
      rw [Node.forestOrder_cons, List.mem_cons, List.mem_append] at below
      rcases below with rfl | inside | after
      · exact ⟨_, List.mem_cons_self, refers_shape found shown mentioned⟩
      · obtain ⟨child, listed, refers⟩ := refers_nodes each inside mentioned
        rcases there with rfl | there
        · contradiction
        · have field : Grammar.defaulted "children" (.array (.record .node))
              ∈ Record.fields members .node :=
            List.mem_cons_self
          exact ⟨_, List.mem_cons_self, refers_member field there (.array listed refers)⟩
      · obtain ⟨other, listed, refers⟩ := refers_nodes later after mentioned
        exact ⟨other, List.mem_cons_of_mem _ listed, refers⟩
termination_by Node.sizeAll parts
decreasing_by
  all_goals
    simp only [Node.sizeAll, Node.size_eq]
    omega

end Written

end Highlighter
