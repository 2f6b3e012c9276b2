import Highlighter.Tree.Grammar
import Highlighter.Tree.Reader

/-! What it means that a reading reads values of a form: it succeeds if and only if the value is of
the form, and then it has noted just the declarations that the value refers to. The rules follow
the shape of readings: one for each way to read a member, one for a member before the others, one
for a word that decides what comes next, and one for the items of an array.
-/

namespace Highlighter

open Grammar
open Json (lookup)

namespace Grammar

variable {key : String} {form : Form} {field : Field} {members : List (String × Json)} {id : DeclId}

/-- The members have a value for a field that needs one, and their value is of its form. -/
structure Field.Met (field : Field) (members : List (String × Json)) : Prop where
  complete : field.need = .required → (field.value? members).isSome
  fits : ∀ value, field.value? members = some value → Fits field.form value

/-- The value of a field refers to a declaration. -/
def Field.Mentions (field : Field) (members : List (String × Json)) (id : DeclId) : Prop :=
  ∃ value, field.value? members = some value ∧ Refers field.form value id

@[simp]
theorem value?_required : (required key form).value? members = lookup key members := by
  simp [Field.value?, required]

@[simp]
theorem value?_defaulted : (defaulted key form).value? members = lookup key members := by
  simp [Field.value?, defaulted]

/-- A required field is met by a value of its form, by inversion. -/
theorem met_required
    : (required key form).Met members
      ↔ ∃ json, lookup key members = some json ∧ Fits form json := by
  constructor
  · intro met
    obtain ⟨json, found⟩ := Option.isSome_iff_exists.mp (met.complete rfl)
    exact ⟨json, value?_required ▸ found, met.fits json found⟩
  · rintro ⟨json, found, fits⟩
    refine ⟨fun _ => by simp [found], fun value there => ?_⟩
    rw [value?_required, found] at there
    cases there
    exact fits

theorem mentions_required
    : (required key form).Mentions members id
      ↔ ∃ json, lookup key members = some json ∧ Refers form json id := by
  simp only [Field.Mentions, value?_required]
  rfl

/-- An object is of its form if all of its fields are met, by inversion. -/
theorem fits_record {record : Record} {json : Json}
    : Fits (.record record) json
      ↔ ∃ members, json = .object members ∧ ∀ field ∈ record.fields members, field.Met members := by
  constructor
  · intro fits
    cases fits with
    | record complete each =>
        exact ⟨_, rfl, fun field listed => ⟨complete field listed, each field listed⟩⟩
  · rintro ⟨members, rfl, met⟩
    exact .record (fun field listed => (met field listed).complete)
      (fun field listed => (met field listed).fits)

/-- An object refers to what one of its fields mentions, by inversion. -/
theorem refers_record {record : Record} {json : Json}
    : Refers (.record record) json id
      ↔ ∃ members,
          json = .object members ∧ ∃ field ∈ record.fields members, field.Mentions members id := by
  constructor
  · intro refers
    cases refers with
    | record listed found refers => exact ⟨_, rfl, _, listed, _, found, refers⟩
  · rintro ⟨members, rfl, field, listed, value, found, refers⟩
    exact .record listed found refers

/-- A word is looked up as one of the variants, or it is none of them. -/
theorem lookup_variants (variants : Variants) (word : String)
    : (∃ own, variants.lookup word = some own ∧ (word, own) ∈ variants)
      ∨ word ∉ variants.map (·.1) := by
  induction variants with
  | nil => exact .inr List.not_mem_nil
  | cons variant rest ih =>
      by_cases same : word = variant.1
      · subst same
        exact .inl ⟨variant.2, List.lookup_cons_self, List.mem_cons_self⟩
      · rcases ih with ⟨own, found, listed⟩ | unlisted
        · refine .inl ⟨own, ?_, List.mem_cons_of_mem _ listed⟩
          rw [List.lookup_cons, beq_eq_false_iff_ne.mpr same]
          exact found
        · exact .inr (by simpa [same] using unlisted)

end Grammar

namespace Reading

variable {α β : Type}

-----------------------------------------------------------------------------------------
-- Steps of a reading
-----------------------------------------------------------------------------------------

/-- A reading and the next one have a value if both have one, by their definition. -/
theorem result_bind {reading : Reading α} {next : α → Reading β} {value : β}
    : (reading >>= next).result = .ok value
      ↔ ∃ first, reading.result = .ok first ∧ (next first).result = .ok value := by
  show (reading.andThen next).result = .ok value ↔ _
  cases result : reading.result with
  | error misfit => simp [andThen, result]
  | ok first => simp [andThen, result]

theorem map_result_bind {γ : Type} (read : β → γ) (reading : Reading α) (next : α → Reading β)
    : (reading >>= next).result.map read
      = reading.result.bind fun value => (next value).result.map read := by
  show (reading.andThen next).result.map read = _
  cases result : reading.result with
  | error misfit => simp [andThen, result, Except.map, Except.bind]
  | ok first => simp [andThen, result, Except.bind]

/-- A value without reading is what it is. -/
theorem result_pure {value other : α}
    : (pure other : Reading α).result = .ok value ↔ other = value := by
  show (done other).result = .ok value ↔ _
  simp [done]

/-- The simplest readings have a value just when the value at the place is of the kind they ask for,
and then it is what stands there.
-/
theorem result_object {place : Place} {value : Option Json} {members : Members}
    : (object place value).result = .ok members ↔ value = some (.object members) := by
  unfold object
  split
  next => simp [done]
  next other => simpa [fail] using other _

theorem result_array {place : Place} {value : Option Json} {items : List Json}
    : (array place value).result = .ok items ↔ value = some (.array items) := by
  unfold array
  split
  next => simp [done]
  next other => simpa [fail] using other _

theorem result_string {place : Place} {value : Option Json} {text : String}
    : (string place value).result = .ok text ↔ value = some (.string text) := by
  unfold string
  split
  next => simp [done]
  next other => simpa [fail] using other _

/-- The next reading adds its references to those of the first, by their definition. -/
theorem references_bind {reading : Reading α} {next : α → Reading β} {first : α}
    (read : reading.result = .ok first)
    : (reading >>= next).references = reading.references ++ (next first).references := by
  show (reading.andThen next).references = _
  simp [andThen, read]

/-- Two readings without references have none in a row. -/
theorem references_bind_nil {reading : Reading α} {next : α → Reading β}
    (first : reading.references = []) (later : ∀ value, (next value).references = [])
    : (reading >>= next).references = [] := by
  cases result : reading.result with
  | ok value => rw [references_bind result, first, later value, List.append_nil]
  | error misfit =>
      show (reading.andThen next).references = []
      simp [andThen, result, first]

instance : LawfulMonad Reading := by
  refine LawfulMonad.mk' Reading ?_ ?_ ?_
  · rintro α ⟨references, result⟩
    cases result <;> simp [Functor.map, andThen, done]
  · intro α β value next
    rfl
  · rintro α β γ ⟨references, result⟩ next last
    cases result with
    | error misfit => rfl
    | ok first =>
        cases second : (next first).result with
        | error misfit => simp [bind, andThen, second]
        | ok value => simp [bind, andThen, second]

/-- The reading has noted a reference to that declaration. -/
def Notes (reading : Reading α) (id : DeclId) : Prop :=
  ∃ reference ∈ reading.references, reference.id = id

/-- Two readings in a row note what either of them does. -/
theorem notes_bind {reading : Reading α} {next : α → Reading β} {first : α} {id : DeclId}
    (read : reading.result = .ok first)
    : (reading >>= next).Notes id ↔ reading.Notes id ∨ (next first).Notes id := by
  simp only [Notes, references_bind read, List.mem_append, or_and_right, exists_or]

-----------------------------------------------------------------------------------------
-- What a reading obeys
-----------------------------------------------------------------------------------------

/-- The reading succeeds just when a part is fit, and then has noted what the part refers to. -/
structure Obeys (reading : Reading α) (fit : Prop) (refers : DeclId → Prop) : Prop where
  succeeds : (∃ value, reading.result = .ok value) ↔ fit
  notes : ∀ value, reading.result = .ok value → ∀ id, reading.Notes id ↔ refers id

theorem Obeys.pure (value : α)
    : (Pure.pure value : Reading α).Obeys True (fun _ => False) where
  succeeds := by simp [result_pure]
  notes := by simp [Notes, Pure.pure, done]

/-- A reading without a value obeys what nothing fits. -/
theorem Obeys.fails {reading : Reading α} {fit : Prop} {refers : DeclId → Prop}
    (fails : ∀ value, reading.result ≠ .ok value) (unfit : ¬fit)
    : reading.Obeys fit refers where
  succeeds := ⟨fun ⟨value, read⟩ => absurd read (fails value), fun fits => absurd fits unfit⟩
  notes value read := absurd read (fails value)

/-- Two readings in a row obey what both obey. The second is only looked at after a success of the
first.
-/
theorem Obeys.bind {reading : Reading α} {next : α → Reading β} {fit fitNext : Prop}
    {refers refersNext : DeclId → Prop} (first : reading.Obeys fit refers)
    (second : ∀ value, reading.result = .ok value → (next value).Obeys fitNext refersNext)
    : (reading >>= next).Obeys (fit ∧ fitNext) (fun id => refers id ∨ refersNext id) := by
  constructor
  · simp only [result_bind]
    constructor
    · rintro ⟨value, middle, read, last⟩
      exact ⟨first.succeeds.mp ⟨middle, read⟩, (second middle read).succeeds.mp ⟨value, last⟩⟩
    · rintro ⟨here, later⟩
      obtain ⟨middle, read⟩ := first.succeeds.mpr here
      obtain ⟨value, last⟩ := (second middle read).succeeds.mpr later
      exact ⟨value, middle, read, last⟩
  · intro value success id
    obtain ⟨middle, read, last⟩ := result_bind.mp success
    rw [notes_bind read, first.notes middle read id, (second middle read).notes value last id]

theorem Obeys.congr {reading : Reading α} {fit other : Prop} {refers others : DeclId → Prop}
    (obeys : reading.Obeys fit refers) (sameFit : fit ↔ other)
    (sameRefers : ∀ id, refers id ↔ others id)
    : reading.Obeys other others :=
  ⟨obeys.succeeds.trans sameFit, fun value read id =>
    (obeys.notes value read id).trans (sameRefers id)⟩

theorem Obeys.map {reading : Reading α} {fit : Prop} {refers : DeclId → Prop}
    (obeys : reading.Obeys fit refers) (make : α → β)
    : (reading >>= fun value => Pure.pure (make value)).Obeys fit refers :=
  (obeys.bind fun value _ => .pure (make value)).congr (by simp) (by simp)

-----------------------------------------------------------------------------------------
-- Values
-----------------------------------------------------------------------------------------

/-- The reading reads a value of that form, which must be there. -/
def Reads (reading : Reading α) (form : Form) (value : Option Json) : Prop :=
  reading.Obeys (∃ json, value = some json ∧ Fits form json)
    (fun id => ∃ json, value = some json ∧ Refers form json id)

/-- The reading reads the value that members give to a field. -/
def ReadsField (reading : Reading α) (field : Field) (members : List (String × Json)) : Prop :=
  reading.Obeys (field.Met members) (field.Mentions members)

/-- The reading reads the values that members give to fields. -/
def ReadsFields (reading : Reading α) (fields : List Field) (members : List (String × Json))
    : Prop :=
  reading.Obeys (∀ field ∈ fields, field.Met members)
    (fun id => ∃ field ∈ fields, field.Mentions members id)

variable {key : String} {form : Form} {field : Field} {fields : List Field}
  {members : List (String × Json)}

theorem reads_some {reading : Reading α} {json : Json}
    : reading.Reads form (some json) ↔ reading.Obeys (Fits form json) (Refers form json) := by
  simp [Reads]

theorem Reads.map {reading : Reading α} {value : Option Json}
    (reads : reading.Reads form value) (make : α → β)
    : (reading >>= fun value => Pure.pure (make value)).Reads form value :=
  Obeys.map reads make

theorem Reads.fail {value : Option Json} (place : Place) (check : Check)
    (unfit : ∀ json, value = some json → ¬Fits form json)
    : (Reading.fail place check : Reading α).Reads form value :=
  Obeys.fails nofun fun ⟨json, found, fits⟩ => unfit json found fits

theorem Reads.pure {json : Json} (value : α) (fits : Fits form json)
    (plain : ∀ id, ¬Refers form json id)
    : (Pure.pure value : Reading α).Reads form (some json) :=
  reads_some.mpr ((Obeys.pure value).congr (by simp [fits]) (by simp [plain]))

theorem reads_string (place : Place) (value : Option Json)
    : (string place value).Reads .text value := by
  unfold string
  split
  next text => exact .pure text (.text text) nofun
  next other =>
    refine .fail place .string fun json found fits => ?_
    cases fits
    exact other _ found

theorem reads_boolean (place : Place) (value : Option Json)
    : (boolean place value).Reads .flag value := by
  unfold boolean
  split
  next flag => exact .pure flag (.flag flag) nofun
  next other =>
    refine .fail place .boolean fun json found fits => ?_
    cases fits
    exact other _ found

theorem reads_coordinate (place : Place) (value : Option Json)
    : (coordinate place value).Reads .coordinate value := by
  unfold coordinate
  split
  next number =>
    split
    next n natural => exact .pure (n : Int) (.coordinate natural) nofun
    next unnatural =>
      refine .fail place .position fun json found fits => ?_
      cases found
      cases fits with
      | coordinate natural => simp [unnatural] at natural
  next other =>
    refine .fail place .position fun json found fits => ?_
    cases fits
    exact other _ found

/-- A reference notes the declaration that it names. -/
theorem reads_reference (place : Place) (value : Option Json)
    : (reference place value).Reads .reference value := by
  unfold reference string
  split
  next id =>
    refine reads_some.mpr ⟨?_, ?_⟩
    · simp [bind, andThen, done, Fits.reference]
    · intro value read other
      simp only [Notes, bind, andThen, done, List.nil_append, List.mem_singleton, exists_eq_left]
      constructor
      · rintro rfl
        exact .reference id
      · rintro ⟨⟩
        rfl
  next other =>
    refine .fail place .string fun json found fits => ?_
    cases fits
    exact other _ found

/-- A word is read if just the words of the form have a meaning. -/
theorem reads_word {words : List String} {meaning : String → Option α}
    (meant : ∀ word, (meaning word).isSome ↔ word ∈ words) (place : Place)
    (check : String → Check) (value : Option Json)
    : (string place value >>= fun word => known place (meaning word) (check word)).Reads
        (.word words) value := by
  unfold string
  split
  next word =>
    show (known place (meaning word) (check word)).Reads _ _
    cases meaningful : meaning word with
    | some value =>
        have listed : word ∈ words := (meant word).mp (by simp [meaningful])
        exact .pure value (.word listed) nofun
    | none =>
        refine .fail place (check word) fun json found fits => ?_
        cases found
        cases fits with
        | word listed => simpa [meaningful] using (meant word).mpr listed
  next other =>
    refine .fail place .string fun json found fits => ?_
    cases fits
    exact other _ found

-----------------------------------------------------------------------------------------
-- Members
-----------------------------------------------------------------------------------------

theorem ReadsField.required {reading : Reading α}
    (reads : reading.Reads form (lookup key members))
    : reading.ReadsField (required key form) members :=
  Obeys.congr reads met_required.symm fun _ => mentions_required.symm

/-- A field whose value is there is read by reading that value. -/
theorem Reads.present {reading : Reading α} {json : Json}
    (present : field.value? members = some json) (reads : reading.Reads field.form (some json))
    : reading.ReadsField field members := by
  refine (reads_some.mp reads).congr ⟨fun fits => ?_, fun met => met.fits json present⟩ fun id => ?_
  · exact ⟨by simp [present], by simpa [present] using fits⟩
  · simp [Field.Mentions, present]

/-- A field that has no value and needs none is met and mentions nothing. -/
theorem ReadsField.absent (needless : field.need = .defaulted ∨ field.need = .nullable)
    (absent : field.value? members = none) (value : α)
    : (Pure.pure value : Reading α).ReadsField field members := by
  refine (Obeys.pure value).congr ⟨fun _ => ?_, fun _ => trivial⟩ (by simp [Field.Mentions, absent])
  refine ⟨fun needed => ?_, by simp [absent]⟩
  rcases needless with other | other <;> simp [other] at needed

/-- A member that may be left out is only read if it is there. -/
theorem ReadsField.defaulted {read : Option Json → Reading α} {default : α}
    (reads : (read (lookup key members)).Reads form (lookup key members))
    : (orDefault (lookup key members) default read).ReadsField (defaulted key form) members := by
  cases found : lookup key members with
  | some json =>
      rw [found] at reads
      exact reads.present (by simp [found])
  | none => exact .absent (.inl rfl) (by simp [found]) default

/-- A member that may be null is only read if it is there and not null. -/
theorem ReadsField.nullable {read : Option Json → Reading α}
    (reads : (read (lookup key members)).Reads form (lookup key members))
    : (Reading.optional (lookup key members) read).ReadsField (nullable key form) members := by
  cases found : lookup key members with
  | some json =>
      rw [found] at reads
      cases json with
      | null => exact .absent (.inr rfl) (by simp [Field.value?, Grammar.nullable, found]) none
      | _ => exact (reads.map some).present (by simp [Field.value?, Grammar.nullable, found])
  | none => exact .absent (.inr rfl) (by simp [Field.value?, Grammar.nullable, found]) none

/-- A word that may be left out is read if its default is a word of the form, too. -/
theorem ReadsField.defaultedWord {words : List String} {meaning : String → Option α}
    (meant : ∀ word, (meaning word).isSome ↔ word ∈ words) {default : String}
    (usual : default ∈ words) (place : Place) (check : String → Check)
    : (orDefault (lookup key members) default (string place)
          >>= fun word => known place (meaning word) (check word)).ReadsField
        (Grammar.defaulted key (.word words)) members := by
  cases found : lookup key members with
  | some json => exact (reads_word meant place check (some json)).present (by simp [found])
  | none =>
      obtain ⟨value, meaningful⟩ := Option.isSome_iff_exists.mp ((meant default).mpr usual)
      show (known place (meaning default) (check default)).ReadsField _ members
      simp only [known, meaningful]
      exact .absent (.inl rfl) (by simp [found]) value

-----------------------------------------------------------------------------------------
-- Objects
-----------------------------------------------------------------------------------------

theorem ReadsFields.map {reading : Reading α} (reads : reading.ReadsFields fields members)
    (make : α → β)
    : (reading >>= fun value => Pure.pure (make value)).ReadsFields fields members :=
  Obeys.map reads make

theorem ReadsFields.nil (value : α)
    : (Pure.pure value : Reading α).ReadsFields [] members :=
  (Obeys.pure value).congr (by simp) (by simp)

theorem ReadsFields.last {reading : Reading α} (reads : reading.ReadsField field members)
    : reading.ReadsFields [field] members :=
  Obeys.congr reads (by simp) (by simp)

theorem ReadsFields.cons {reading : Reading α} {next : α → Reading β}
    (first : reading.ReadsField field members)
    (others : ∀ value, reading.result = .ok value → (next value).ReadsFields fields members)
    : (reading >>= next).ReadsFields (field :: fields) members :=
  (Obeys.bind first others).congr (by simp) (by simp)

/-- Reading the fields of an object is reading the object. -/
theorem Reads.object {record : Record} {reading : Reading α}
    (reads : reading.ReadsFields (record.fields members) members)
    : reading.Reads (.record record) (some (.object members)) :=
  reads_some.mpr (Obeys.congr reads (by simp [fits_record]) (by simp [refers_record]))

/-- What is no object has no fields to read. -/
theorem Reads.fail_object {record : Record} {value : Option Json} (place : Place)
    (other : ∀ members, value ≠ some (.object members))
    : (Reading.fail place .object : Reading α).Reads (.record record) value := by
  refine .fail place .object fun json found fits => ?_
  obtain ⟨members, rfl, _⟩ := fits_record.mp fits
  exact other members found

/-- An object is read by reading its fields. -/
theorem Reads.record {record : Record} {place : Place} {value : Option Json}
    {next : List (String × Json) → Reading α}
    (reads
      : ∀ members,
          value = some (.object members)
          → (next members).ReadsFields (record.fields members) members)
    : (Reading.object place value >>= next).Reads (.record record) value := by
  unfold Reading.object
  split
  next members => exact .object (reads members rfl)
  next other => exact .fail_object place other

/-- What must be an object may be known to be one before its own fields are read. -/
theorem ReadsFields.ahead {record : Record} {place : Place}
    {next : List (String × Json) → Reading α}
    (listed : required key (.record record) ∈ fields)
    (reads
      : ∀ parts,
          lookup key members = some (.object parts) → (next parts).ReadsFields fields members)
    : (Reading.object place (lookup key members) >>= next).ReadsFields fields members := by
  unfold Reading.object
  split
  next parts found => exact reads parts found
  next other =>
    refine Obeys.fails nofun fun met => ?_
    obtain ⟨json, found, fits⟩ := met_required.mp (met _ listed)
    obtain ⟨parts, rfl, _⟩ := fits_record.mp fits
    exact other parts found

/-- The word decides which fields are read after it, besides those that do not depend on it. -/
theorem ReadsFields.variants {variants : Variants} {place : Place} {next : String → Reading α}
    (shared : List Field)
    (known : ∀ variant ∈ variants, (next variant.1).ReadsFields (shared ++ variant.2) members)
    (unknown
      : ∀ word, word ∉ variants.map (·.1) → ∀ value, (next word).result ≠ .ok value)
    : (string place (lookup key members) >>= next).ReadsFields
        (shared ++ oneOf variants key members) members := by
  have first : choice variants key ∈ shared ++ oneOf variants key members :=
    List.mem_append_right _ List.mem_cons_self
  unfold string
  split
  next word found =>
    show (next word).ReadsFields _ members
    -- The word is met and refers to nothing, so its field only adds to those of the variant.
    rcases lookup_variants variants word with ⟨own, here, listed⟩ | unlisted
    · have among : word ∈ variants.map (·.1) := List.mem_map.mpr ⟨(word, own), listed, rfl⟩
      have met : (choice variants key).Met members :=
        met_required.mpr ⟨_, found, .word among⟩
      have silent (id : DeclId) : ¬(choice variants key).Mentions members id := by
        rintro ⟨json, _, refers⟩
        nomatch refers
      have fields : oneOf variants key members = choice variants key :: own := by
        simp [oneOf, found, here]
      rw [fields]
      refine Obeys.congr (known (word, own) listed) ?_ fun id => ?_
      · simp [or_imp, forall_and, met]
      · simp [or_and_right, exists_or, silent]
    · refine Obeys.fails (unknown word unlisted) fun met => ?_
      obtain ⟨json, there, fits⟩ := met_required.mp (met _ first)
      rw [found] at there
      cases there
      cases fits with
      | word listed => exact unlisted listed
  next other =>
    refine Obeys.fails nofun fun met => ?_
    obtain ⟨json, found, fits⟩ := met_required.mp (met _ first)
    cases fits
    exact other _ found

-----------------------------------------------------------------------------------------
-- Arrays
-----------------------------------------------------------------------------------------

/-- Items are read one after another, by induction over them. -/
theorem obeys_items (read : Nat → Json → Reading α)
    {readFrom : Nat → List Json → Reading (List α)}
    (nil : ∀ index, readFrom index [] = Pure.pure [])
    (cons
      : ∀ index item rest,
          readFrom index (item :: rest)
            = read index item >>= fun first =>
                readFrom (index + 1) rest >>= fun others => Pure.pure (first :: others))
    {items : List Json} (each : ∀ index, ∀ item ∈ items, (read index item).Reads form (some item))
    (index : Nat)
    : (readFrom index items).Obeys (∀ item ∈ items, Fits form item)
        (fun id => ∃ item ∈ items, Refers form item id) := by
  induction items generalizing index with
  | nil =>
      rw [nil]
      exact (Obeys.pure _).congr (by simp) (by simp)
  | cons item rest ih =>
      rw [cons]
      have first := reads_some.mp (each index item List.mem_cons_self)
      have others := ih (fun index item later => each index item (List.mem_cons_of_mem _ later))
      exact (first.bind fun value _ => (others (index + 1)).map (value :: ·)).congr (by simp)
        (by simp)

/-- Reading the items of an array is reading the array. -/
theorem Reads.array {items : List Json} {reading : Reading α}
    (reads
      : reading.Obeys (∀ item ∈ items, Fits form item)
          (fun id => ∃ item ∈ items, Refers form item id))
    : reading.Reads (.array form) (some (.array items)) := by
  refine reads_some.mpr (reads.congr ⟨.array, ?_⟩ fun id => ⟨?_, ?_⟩)
  · intro fits
    cases fits with
    | array each => exact each
  · rintro ⟨item, listed, refers⟩
    exact .array listed refers
  · intro refers
    cases refers with
    | array listed refers => exact ⟨_, listed, refers⟩

/-- What is no array has no items to read. -/
theorem Reads.fail_array {value : Option Json} (place : Place)
    (other : ∀ items, value ≠ some (.array items))
    : (Reading.fail place .array : Reading α).Reads (.array form) value := by
  refine .fail place .array fun json found fits => ?_
  cases fits
  exact other _ found

/-- An array is read by reading its items. -/
theorem reads_array {place : Place} {value : Option Json} {next : List Json → Reading α}
    (reads
      : ∀ items,
          value = some (.array items)
          → (next items).Obeys (∀ item ∈ items, Fits form item)
              (fun id => ∃ item ∈ items, Refers form item id))
    : (array place value >>= next).Reads (.array form) value := by
  unfold array
  split
  next items => exact .array (reads items rfl)
  next other => exact .fail_array place other

end Reading

end Highlighter
