import Highlighter.Line.Sheet
import Highlighter.Proofs.Line.Patching
import Highlighter.Proofs.Results

/-! Payloads stand for tokens. There is one exactly if records can hold its tokens, and it is empty
exactly if there are none, so a sheet of payloads that is amended by encoded lines goes along with
the sheet of tokens that is amended by the lines.
-/

namespace Highlighter

-----------------------------------------------------------------------------------------
-- Empty payloads
-----------------------------------------------------------------------------------------

/-- Letters are written for bytes only, by cases on the first group. -/
theorem Base64.encode_eq_nil {bytes : List UInt8} : Base64.encode bytes = [] ↔ bytes = [] := by
  match bytes with
  | [] => simp [Base64.encode]
  | [_] | [_, _] | _ :: _ :: _ :: _ => simp [Base64.encode]

/-- Tokens have records of some bytes, and no tokens have none. -/
theorem Payload.records_eq_nil {tokens : List Token} {bytes : List UInt8}
    (recorded : Payload.records tokens = .ok bytes)
    : bytes = [] ↔ tokens = [] := by
  cases tokens with
  | nil => simp [← Except.ok.inj recorded]
  | cons token rest =>
      simp only [Payload.records, Payload.record, ok_of_bind_iff, pure, Except.pure,
        Except.ok.injEq] at recorded
      obtain ⟨_, ⟨_, _, _, _, rfl⟩, _, _, rfl⟩ := recorded
      simp [Payload.fourBytes]

/-- A payload is empty exactly if it is one of no tokens. -/
theorem Payload.isEmpty_encode {tokens : List Token} {payload : String}
    (encoded : Payload.encode tokens = .ok payload)
    : payload.isEmpty = tokens.isEmpty := by
  simp only [Payload.encode, ok_of_bind_iff, pure, Except.pure, Except.ok.injEq] at encoded
  obtain ⟨bytes, recorded, rfl⟩ := encoded
  rw [Bool.eq_iff_iff, List.isEmpty_iff, ← Payload.records_eq_nil recorded,
    ← Base64.encode_eq_nil]
  simp

-----------------------------------------------------------------------------------------
-- Encoded lines
-----------------------------------------------------------------------------------------

/-- A line with a payload of its tokens. -/
def EncodedLine.Stands (line : Line) (encoded : EncodedLine) : Prop :=
  encoded.line = line.line ∧ Payload.encode line.tokens = .ok encoded.payload

/-- Lines are encoded one by one, by induction over them. -/
theorem EncodedLine.ofLines_eq_ok {lines : List Line} {encoded : List EncodedLine}
    : EncodedLine.ofLines lines = .ok encoded
      ↔ List.Forall₂ EncodedLine.Stands lines encoded := by
  induction lines generalizing encoded with
  | nil => simp [EncodedLine.ofLines, eq_comm]
  | cons line rest ih =>
      simp only [EncodedLine.ofLines, EncodedLine.ofLine, ok_of_bind_iff, pure, Except.pure,
        Except.ok.injEq, List.forall₂_cons_left_iff, ih]
      constructor
      · rintro ⟨_, ⟨payload, here, rfl⟩, others, later, rfl⟩
        exact ⟨_, others, ⟨rfl, here⟩, later, rfl⟩
      · rintro ⟨⟨number, payload⟩, others, ⟨rfl, here⟩, later, rfl⟩
        exact ⟨_, ⟨payload, here, rfl⟩, others, later, rfl⟩

-----------------------------------------------------------------------------------------
-- Tokens that no record can hold
-----------------------------------------------------------------------------------------

/-- A record can hold the start column and the kind of a token. -/
structure Token.Fits (token : Token) : Prop where
  character : 0 ≤ token.range.start.character ∧ token.range.start.character ≤ 4294967295
  kind : 0 ≤ token.kind ∧ token.kind ≤ 65535

/-- A field holds a value from 0 to its limit, by cases on the sign. -/
theorem Payload.exists_field {limit : Nat} {value : Int}
    : (∃ n, field limit value = .ok n) ↔ 0 ≤ value ∧ value ≤ limit := by
  cases value with
  | ofNat n =>
      by_cases small : n ≤ limit
      · simp [field, small]
      · simp [field, small]
  | negSucc n =>
      have negative : ¬ 0 ≤ Int.negSucc n := by omega
      simp [field, negative]

/-- A token has a record exactly if both of its fields hold their values. -/
theorem Payload.exists_record {token : Token}
    : (∃ bytes, record token = .ok bytes) ↔ token.Fits := by
  simp only [record, ok_of_bind_iff, pure, Except.pure, Except.ok.injEq]
  constructor
  · rintro ⟨_, character, here, kind, there, _⟩
    exact ⟨exists_field.mp ⟨character, here⟩, exists_field.mp ⟨kind, there⟩⟩
  · rintro ⟨character, kind⟩
    obtain ⟨column, here⟩ := exists_field.mpr character
    obtain ⟨ordinal, there⟩ := exists_field.mpr kind
    exact ⟨_, column, here, ordinal, there, rfl⟩

/-- Tokens have a payload exactly if each of them has a record, by induction over them. -/
theorem Payload.exists_encode {tokens : List Token}
    : (∃ payload, encode tokens = .ok payload) ↔ ∀ token ∈ tokens, token.Fits := by
  have recorded
      : (∃ payload, encode tokens = .ok payload) ↔ ∃ bytes, records tokens = .ok bytes := by
    simp [encode, ok_of_bind_iff, pure, Except.pure]
  rw [recorded]
  clear recorded
  induction tokens with
  | nil => simp [records]
  | cons token rest ih =>
      refine Iff.trans ?_ ((and_congr exists_record ih).trans List.forall_mem_cons.symm)
      simp only [records, ok_of_bind_iff, pure, Except.pure, Except.ok.injEq]
      constructor
      · rintro ⟨_, first, here, others, later, _⟩
        exact ⟨⟨first, here⟩, others, later⟩
      · rintro ⟨⟨first, here⟩, others, later⟩
        exact ⟨_, first, here, others, later, rfl⟩

/-- Lines can be encoded if each of them can. -/
theorem EncodedLine.exists_stands {lines : List Line}
    (each : ∀ line ∈ lines, ∃ payload, Payload.encode line.tokens = .ok payload)
    : ∃ encoded, List.Forall₂ EncodedLine.Stands lines encoded := by
  refine exists_forall₂ fun line member => ?_
  obtain ⟨payload, here⟩ := each line member
  exact ⟨⟨line.line, payload⟩, rfl, here⟩

/-- Lines can be encoded exactly if records can hold all of their tokens. -/
theorem EncodedLine.exists_ofLines {lines : List Line}
    : (∃ encoded, EncodedLine.ofLines lines = .ok encoded)
      ↔ ∀ line ∈ lines, ∀ token ∈ line.tokens, token.Fits := by
  constructor
  · rintro ⟨encoded, lined⟩
    have stand := EncodedLine.ofLines_eq_ok.mp lined
    clear lined
    induction stand with
    | nil => simp
    | cons stands _ ih =>
        exact List.forall_mem_cons.mpr ⟨Payload.exists_encode.mp ⟨_, stands.2⟩, ih⟩
  · intro fits
    obtain ⟨encoded, stand⟩ := EncodedLine.exists_stands fun line member =>
      Payload.exists_encode.mpr (fits line member)
    exact ⟨encoded, EncodedLine.ofLines_eq_ok.mpr stand⟩

-----------------------------------------------------------------------------------------
-- Sheets of payloads
-----------------------------------------------------------------------------------------

/-- A sheet of payloads has on every line the payload of what a sheet of tokens has there. -/
def Sheet.Encodes (tokens : Sheet (List Token)) (payloads : Sheet String) : Prop :=
  ∀ line : Int,
    Option.Rel (fun content payload => Payload.encode content = .ok payload)
      tokens[line]? payloads[line]?

namespace Sheet

/-- A line without tokens has the empty payload, so both records say the same. -/
theorem rel_record {line : Line} {encoded : EncodedLine} (stands : EncodedLine.Stands line encoded)
    : Option.Rel (fun content payload => Payload.encode content = .ok payload)
        line.record.2 encoded.record.2 := by
  have empty := Payload.isEmpty_encode stands.2
  rw [Line.record, EncodedLine.record, empty]
  cases line.tokens.isEmpty with
  | true => exact .none
  | false => exact .some stands.2

/-- Amending both sheets by the same lines keeps the payloads, by induction over the lines. -/
theorem Encodes.patch {tokens : Sheet (List Token)} {payloads : Sheet String}
    (encodes : tokens.Encodes payloads) {lines : List Line} {encoded : List EncodedLine}
    (stand : List.Forall₂ EncodedLine.Stands lines encoded)
    : Encodes (tokens.patch (lines.map Line.record))
        (payloads.patch (encoded.map EncodedLine.record)) := by
  induction stand generalizing tokens payloads with
  | nil => exact encodes
  | @cons first second _ _ stands _ ih =>
      refine ih (fun line => ?_)
      rw [getElem?_amend, getElem?_amend, show second.record.1 = first.record.1 from stands.1]
      split
      · exact rel_record stands
      · exact encodes line

/-- Only one sheet has the payloads of a sheet of tokens, line by line. -/
theorem Encodes.unique {tokens : Sheet (List Token)} {payloads others : Sheet String}
    (first : tokens.Encodes payloads) (second : tokens.Encodes others)
    : payloads = others := by
  have once {content : Option (List Token)} {here there : Option String}
      (one : Option.Rel (fun content payload => Payload.encode content = .ok payload) content here)
      (two : Option.Rel (fun content payload => Payload.encode content = .ok payload) content there)
      : here = there := by
    cases one with
    | none =>
        cases two
        rfl
    | some one =>
        cases two with
        | some two => rw [Except.ok.inj (one.symm.trans two)]
  exact Std.ExtTreeMap.ext_getElem? fun line => once (first line) (second line)

/-- A sheet of lines is written line by line on an empty one. -/
theorem ofList_eq_patch {α : Type} (lines : List (Int × α))
    : ofList lines = patch ∅ (lines.map fun line => (line.1, some line.2)) := by
  rw [ofList, Std.ExtTreeMap.ofList_eq_foldl, patch, List.foldl_map]
  rfl

end Sheet

/-- The sheet of lines that all have tokens is written by their records. -/
theorem Line.sheet_eq_patch {lines : List Line} (occupied : ∀ line ∈ lines, line.tokens ≠ [])
    : sheet lines = Sheet.patch ∅ (lines.map record) := by
  rw [sheet, Sheet.ofList_eq_patch, List.map_map]
  refine congrArg _ (List.map_congr_left fun line member => ?_)
  simp [record, occupied line member]

/-- Encoded lines that all have tokens have no empty payload, by induction over them. -/
theorem EncodedLine.isEmpty_payload {lines : List Line} {encoded : List EncodedLine}
    (stand : List.Forall₂ EncodedLine.Stands lines encoded)
    (occupied : ∀ line ∈ lines, line.tokens ≠ [])
    : ∀ line ∈ encoded, line.payload.isEmpty = false := by
  induction stand with
  | nil => simp
  | cons stands _ ih =>
      obtain ⟨first, others⟩ := List.forall_mem_cons.mp occupied
      refine List.forall_mem_cons.mpr ⟨?_, ih others⟩
      rw [Payload.isEmpty_encode stands.2]
      simpa using first

/-- The sheet of encoded lines without empty payloads is written by their records. -/
theorem EncodedLine.sheet_eq_patch {encoded : List EncodedLine}
    (occupied : ∀ line ∈ encoded, line.payload.isEmpty = false)
    : sheet encoded = Sheet.patch ∅ (encoded.map record) := by
  rw [sheet, Sheet.ofList_eq_patch, List.map_map]
  refine congrArg _ (List.map_congr_left fun line member => ?_)
  simp [record, occupied line member]

/-- A sheet has the payloads of grouped tokens exactly if it is that of the encoded groups. -/
theorem Line.Groups.encodes_sheet_iff {tokens : List Token} {lines : List Line}
    (groups : Groups tokens lines) {payloads : Sheet String}
    : (sheet lines).Encodes payloads
      ↔ ∃ encoded,
          EncodedLine.ofLines lines = .ok encoded ∧ payloads = EncodedLine.sheet encoded := by
  have written {encoded : List EncodedLine}
      (stand : List.Forall₂ EncodedLine.Stands lines encoded)
      : (sheet lines).Encodes (EncodedLine.sheet encoded) := by
    rw [sheet_eq_patch groups.occupied,
      EncodedLine.sheet_eq_patch (EncodedLine.isEmpty_payload stand groups.occupied)]
    exact Sheet.Encodes.patch (fun line => by simp) stand
  constructor
  · intro encodes
    have each : ∀ line ∈ lines, ∃ payload, Payload.encode line.tokens = .ok payload := by
      intro line member
      have here := encodes line.line
      rw [groups.getElem?_sheet, Token.content, ← groups.whole line member,
        if_neg (by simpa using groups.occupied line member)] at here
      generalize payloads[line.line]? = found at here
      cases here with
      | some encoded => exact ⟨_, encoded⟩
    obtain ⟨encoded, stand⟩ := EncodedLine.exists_stands each
    exact ⟨encoded, EncodedLine.ofLines_eq_ok.mpr stand, encodes.unique (written stand)⟩
  · rintro ⟨encoded, lined, rfl⟩
    exact written (EncodedLine.ofLines_eq_ok.mp lined)

end Highlighter
