import Highlighter.Proofs.Tree.Reads
import Highlighter.Tree.Misfits

/-! What it means that a reading is honest: it notes references where the grammar asks for them, and
if it fails there is something wrong where it says. The rules follow the shape of readings: one for
each check that a value can fail, one for each way to read a member, one for a word that decides
what comes next, and one for the items of an array.
-/

namespace Highlighter

open Grammar
open Json (lookup)

-----------------------------------------------------------------------------------------
-- Places
-----------------------------------------------------------------------------------------

namespace Json

variable {json : Json} {place : Place}

theorem at?_member (key : String)
    : json.at? (place.member key)
      = (json.at? place).bind fun value => value.step? (.member key) := by
  simp [at?, Place.member, Place.steps, List.foldlM_append]

theorem at?_item (index : Nat)
    : json.at? (place.item index)
      = (json.at? place).bind fun value => value.step? (.item index) := by
  simp [at?, Place.item, Place.steps, List.foldlM_append]

/-- The place of a declaration is where the tree lists it. -/
theorem at?_declPlace (id : DeclId) : json.at? (Reading.declPlace id) = json.declared? id := by
  have get (value : Json) (key : String) : value.step? (.member key) = value.get? key := by
    cases value <;> rfl
  rw [Reading.declPlace, at?_member, at?_member, declared?]
  simp only [get]
  rfl

/-- A form is asked for at a place, and this is what stands there. -/
structure Finds (json : Json) (place : Place) (form : Form) (value : Option Json) : Prop where
  asked : json.Asks place form
  found : json.at? place = value

namespace Finds

variable {record : Record} {members : Members} {form : Form}

/-- A member is found where its object is, if it is asked for. -/
theorem member (within : json.Finds place (.record record) (some (.object members))) {field : Field}
    (listed : field ∈ record.fields members)
    (due : field.need = .required ∨ (field.value? members).isSome)
    : json.Finds (place.member field.key) field.form (lookup field.key members) where
  asked := .member within.asked within.found listed due
  found := by rw [at?_member, within.found]; rfl

theorem required {key : String}
    (within : json.Finds place (.record record) (some (.object members)))
    (listed : Grammar.required key form ∈ record.fields members)
    : json.Finds (place.member key) form (lookup key members) :=
  within.member listed (.inl rfl)

/-- An item is found where its array is. -/
theorem item {items : List Json} (within : json.Finds place (.array form) (some (.array items)))
    {index : Nat} {value : Json} (listed : items[index]? = some value)
    : json.Finds (place.item index) form (some value) where
  asked := .item within.asked within.found (List.getElem?_eq_some_iff.mp listed).1
  found := by rw [at?_item, within.found]; exact listed

end Finds

/-- What is asked for refers only to what is reached, by induction on how it comes to be asked. -/
theorem Asks.reaches {form : Form} (asked : json.Asks place form) {value : Json}
    (found : json.at? place = some value) {id : DeclId} (refers : Refers form value id)
    : json.Reaches id := by
  induction asked generalizing value id with
  | tree =>
      cases found
      exact .mentioned refers
  | @member place record members field _ there listed due ih =>
      rw [at?_member, there] at found
      have present : field.value? members = some value := by
        have found : lookup field.key members = some value := found
        unfold Field.value? at due ⊢
        rw [found] at due ⊢
        split <;> simp_all
      exact ih there (.record listed present refers)
  | item _ there inside ih =>
      rw [at?_item, there] at found
      exact ih there (.array (List.mem_of_getElem? found) refers)
  | fullName _ _ ih => exact ih found (.name refers)
  | declaration _ there declared ih =>
      rw [at?_declPlace, declared] at found
      cases found
      exact .followed (ih there (.reference _)) declared refers

/-- Where a form is asked for a value stands, or it is a member that an object lacks. -/
theorem Asks.present_or_missing {form : Form} (asked : json.Asks place form)
    : (∃ value, json.at? place = some value)
      ∨ ∃ parent key members,
          place = parent.member key
          ∧ json.at? parent = some (.object members)
          ∧ lookup key members = none := by
  induction asked with
  | tree => exact .inl ⟨json, rfl⟩
  | @member place record members field _ there _ _ _ =>
      rw [at?_member, there]
      cases missing : lookup field.key members with
      | some value => exact .inl ⟨value, missing⟩
      | none => exact .inr ⟨place, field.key, members, rfl, there, missing⟩
  | @item place form items index _ there inside _ =>
      rw [at?_item, there]
      exact .inl ⟨items[index], List.getElem?_eq_getElem inside⟩
  | fullName _ _ ih => exact ih
  | declaration _ _ declared _ =>
      rw [at?_declPlace]
      exact .inl ⟨_, declared⟩

end Json

-----------------------------------------------------------------------------------------
-- Honest readings
-----------------------------------------------------------------------------------------

/-- A reference stands where one is asked for. -/
def Reference.Of (json : Json) (reference : Reference) : Prop :=
  json.Finds reference.place .reference (some (.string reference.id))

namespace Reading

variable {α β : Type} {json : Json} {place : Place} {form : Form} {value : Option Json}

/-- A reading notes references where they are asked for, and if it fails there is something wrong
where it says.
-/
structure Honest (json : Json) (reading : Reading α) : Prop where
  references : ∀ reference ∈ reading.references, reference.Of json
  misfit : ∀ misfit, reading.result = .error misfit → misfit.Of json

theorem Honest.done (value : α) : (Reading.done value).Honest json := ⟨nofun, nofun⟩

theorem Honest.pure (value : α) : (Pure.pure value : Reading α).Honest json := .done value

theorem Honest.fail (finds : json.Finds place form value) {check : Check} (tests : form.Tests check)
    (failed : check.FailedBy json value)
    : (Reading.fail place check : Reading α).Honest json := by
  refine ⟨nofun, fun misfit here => ?_⟩
  cases here
  exact ⟨⟨form, finds.asked, tests⟩, finds.found ▸ failed⟩

/-- Two readings in a row are honest if both are. The second is only looked at after a success of
the first.
-/
theorem Honest.bind {reading : Reading α} {next : α → Reading β} (first : reading.Honest json)
    (second : ∀ value, reading.result = .ok value → (next value).Honest json)
    : (reading >>= next).Honest json := by
  cases result : reading.result with
  | error misfit =>
      have stopped : reading >>= next = ⟨reading.references, .error misfit⟩ := by
        simp [Bind.bind, andThen, result]
      rw [stopped]
      refine ⟨first.references, fun other here => ?_⟩
      cases here
      exact first.misfit misfit result
  | ok value =>
      have both : reading >>= next
          = ⟨reading.references ++ (next value).references, (next value).result⟩ := by
        simp [Bind.bind, andThen, result]
      have second := second value result
      rw [both]
      refine ⟨fun reference noted => ?_, second.misfit⟩
      rcases List.mem_append.mp noted with here | later
      · exact first.references reference here
      · exact second.references reference later

theorem honest_object {record : Record} (finds : json.Finds place (.record record) value)
    : (object place value).Honest json := by
  unfold object
  split
  next => exact .done _
  next other => exact .fail finds trivial other

theorem honest_array (finds : json.Finds place (.array form) value)
    : (array place value).Honest json := by
  unfold array
  split
  next => exact .done _
  next other => exact .fail finds trivial other

theorem honest_string (finds : json.Finds place form value) (tests : form.Tests .string)
    : (string place value).Honest json := by
  unfold string
  split
  next => exact .done _
  next other => exact .fail finds tests other

theorem honest_boolean (finds : json.Finds place .flag value)
    : (boolean place value).Honest json := by
  unfold boolean
  split
  next => exact .done _
  next other => exact .fail finds trivial other

theorem honest_coordinate (finds : json.Finds place .coordinate value)
    : (coordinate place value).Honest json := by
  unfold coordinate
  split
  next number =>
    split
    next => exact .done _
    next unnatural =>
      refine .fail finds trivial fun other n found natural => ?_
      cases found
      simp [unnatural] at natural
  next other =>
    exact .fail finds trivial fun number _ found => absurd found (other number)

theorem honest_reference (finds : json.Finds place .reference value)
    : (reference place value).Honest json := by
  refine .bind (honest_string finds trivial) fun id read => ⟨?_, nofun⟩
  obtain rfl := result_string.mp read
  simpa [Reference.Of] using finds

/-- A word is read honestly if just the words of the form have a meaning. -/
theorem honest_word {words : List String} {meaning : String → Option α} {check : String → Check}
    (meant : ∀ word, (meaning word).isSome ↔ word ∈ words)
    (tests : ∀ word, (Form.word words).Tests (check word))
    (fails : ∀ word ∉ words, (check word).FailedBy json (some (.string word)))
    (finds : json.Finds place (.word words) value)
    : (string place value >>= fun word => known place (meaning word) (check word)).Honest json := by
  refine .bind (honest_string finds trivial) fun word read => ?_
  obtain rfl := result_string.mp read
  unfold known
  split
  next => exact .done _
  next meaningless =>
    refine .fail finds (tests word) (fails word fun listed => ?_)
    simpa [meaningless] using (meant word).mpr listed

-----------------------------------------------------------------------------------------
-- Members and items
-----------------------------------------------------------------------------------------

section

variable {record : Record} {members : Members} {key : String}

/-- A member that may be left out is only read if it is there. -/
theorem Honest.defaulted (within : json.Finds place (.record record) (some (.object members)))
    (listed : Grammar.defaulted key form ∈ record.fields members) {default : α}
    {read : Option Json → Reading α}
    (honest : ∀ value, json.Finds (place.member key) form (some value) → (read value).Honest json)
    : (orDefault (lookup key members) default read).Honest json := by
  cases found : lookup key members with
  | none => exact .done _
  | some value =>
      have finds := within.member listed (.inr (by simp [found]))
      exact honest value (found ▸ finds)

/-- A member that may be null is only read if it is there and not null. -/
theorem Honest.nullable (within : json.Finds place (.record record) (some (.object members)))
    (listed : Grammar.nullable key form ∈ record.fields members) {read : Option Json → Reading α}
    (honest : ∀ value, json.Finds (place.member key) form (some value) → (read value).Honest json)
    : (Reading.optional (lookup key members) read).Honest json := by
  cases found : lookup key members with
  | none => exact .done _
  | some value =>
      by_cases empty : value = .null
      · subst empty
        exact .done _
      · have present : ((Grammar.nullable key form).value? members).isSome := by
          simp [Field.value?, Grammar.nullable, found, empty]
        have finds := within.member listed (.inr present)
        have read : Reading.optional (some value) read
            = read (some value) >>= fun value => Pure.pure (some value) := by
          cases value <;> first | rfl | contradiction
        rw [read]
        exact .bind (honest value (found ▸ finds)) fun _ _ => .pure _

/-- The word decides what is read after it. -/
theorem Honest.variants {variants : Variants} {next : String → Reading α}
    (within : json.Finds place (.record record) (some (.object members)))
    (listed : ∀ field ∈ oneOf variants key members, field ∈ record.fields members)
    (known
      : ∀ variant ∈ variants,
          (∀ field ∈ variant.2, field ∈ record.fields members) → (next variant.1).Honest json)
    (unknown
      : ∀ word ∉ variants.map (·.1),
          json.Finds (place.member key) (.word (variants.map (·.1))) (some (.string word))
          → (next word).Honest json)
    : (string (place.member key) (lookup key members) >>= next).Honest json := by
  have finds := within.required (listed (choice variants key) List.mem_cons_self)
  refine .bind (honest_string finds trivial) fun word read => ?_
  have found := result_string.mp read
  rcases lookup_variants variants word with ⟨own, here, among⟩ | unlisted
  · refine known (word, own) among fun field mem => listed field ?_
    simp [oneOf, found, here, mem]
  · exact unknown word unlisted (found ▸ finds)

end

/-- Items are read one after another, by induction over them. -/
theorem honest_items (read : Nat → Json → Reading α)
    {readFrom : Nat → List Json → Reading (List α)}
    (nil : ∀ index, readFrom index [] = Pure.pure [])
    (cons
      : ∀ index item rest,
          readFrom index (item :: rest)
            = read index item >>= fun first =>
                readFrom (index + 1) rest >>= fun others => Pure.pure (first :: others))
    {items : List Json} (start : Nat)
    (each : ∀ index item, items[index]? = some item → (read (start + index) item).Honest json)
    : (readFrom start items).Honest json := by
  induction items generalizing start with
  | nil =>
      rw [nil]
      exact .pure _
  | cons item rest ih =>
      rw [cons]
      refine .bind (each 0 item rfl) fun first _ => ?_
      refine .bind (ih (start + 1) fun index item listed => ?_) fun _ _ => .pure _
      rw [Nat.add_right_comm, Nat.add_assoc]
      exact each (index + 1) item listed

end Reading

end Highlighter
