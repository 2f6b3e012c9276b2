import Highlighter.Proofs.Payload.RoundTrip

/-! Writing again what was read. Reading a payload is lenient about its letters and strict about its
bytes, which are whole records of known kinds; and what it tells of a record determines all of its
bytes. So payloads that are read alike stand for the same bytes, and the one that is written for
them is the only one that writing gives.
-/

namespace Highlighter

-----------------------------------------------------------------------------------------
-- Records
-----------------------------------------------------------------------------------------

/-- Eight bytes, with the ordinal of a kind in the last two. -/
structure Payload.IsRecord (record : List UInt8) : Prop where
  length : record.length = 8
  kind : Payload.number (record.drop 6) ≤ 17

/-- Bytes are some records one after the other. -/
def Payload.Recorded (bytes : List UInt8) : Prop :=
  ∃ records : List (List UInt8), bytes = records.flatten ∧ ∀ record ∈ records, IsRecord record

/-- There are 18 kinds. -/
theorem Kind.le_of_ofOrdinal? {n : Nat} {kind : Kind} (found : ofOrdinal? n = some kind)
    : n ≤ 17 :=
  Nat.le_of_lt_succ (List.getElem?_eq_some_iff.mp found).1

namespace Span

/-- A token on line 0 of which a payload tells this. -/
def token (span : Span) : Token :=
  .ofKind span.kind (.between 0 span.character 0 (span.character + span.length))

/-- The fields of a record can hold the numbers of a span. -/
structure Narrow (span : Span) : Prop where
  character : span.character < 4294967296
  length : span.length < 65536

variable {span : Span}

/-- The length of that token needs neither rounding nor wrapping. -/
theorem Narrow.keeps (narrow : span.Narrow) : span.Keeps span.token := by
  have columns : (span.character + span.length : Int) - span.character = span.length := by omega
  have short := narrow.length
  have width : span.token.range.width = span.length := by
    show nearestInt (span.character + span.length - span.character) = span.length
    rw [columns]
    exact nearestInt_of_natAbs_le (by omega)
  refine ⟨rfl, narrow.character, ?_, rfl⟩
  rw [Payload.wrappedLength, width]
  omega

theorem keeps_token {spans : List Span} (narrow : ∀ span ∈ spans, span.Narrow)
    : List.Forall₂ Keeps (spans.map token) spans := by
  rw [List.forall₂_map_left_iff, List.forall₂_same]
  exact fun span member => (narrow span member).keeps

end Span

namespace Payload

/-- Two bytes are those of the number that they write. -/
theorem twoBytes_number (a b : UInt8) : twoBytes (number [a, b]) = [a, b] := by
  have := a.toNat_lt
  have := b.toNat_lt
  simp only [number, twoBytes, List.foldl_cons, List.foldl_nil]
  rw [Base64.ofNat_eq a (by omega), Base64.ofNat_eq b (by omega)]

/-- Four bytes are those of the number that they write. -/
theorem fourBytes_number (a b c d : UInt8) : fourBytes (number [a, b, c, d]) = [a, b, c, d] := by
  have := a.toNat_lt
  have := b.toNat_lt
  have := c.toNat_lt
  have := d.toNat_lt
  simp only [number, fourBytes, List.foldl_cons, List.foldl_nil]
  rw [Base64.ofNat_eq a (by omega), Base64.ofNat_eq b (by omega), Base64.ofNat_eq c (by omega),
    Base64.ofNat_eq d (by omega)]

/-- Bytes write numbers below the power of 256 to their length, by induction from the last byte. -/
theorem number_lt (bytes : List UInt8) : number bytes < Nat.pow 256 bytes.length := by
  induction bytes using List.reverseRecOn with
  | nil => exact Nat.one_pos
  | append_singleton front byte ih =>
      have last := byte.toNat_lt
      have power : Nat.pow 256 (front.length + 1) = Nat.pow 256 front.length * 256 := rfl
      have split : number (front ++ [byte]) = 256 * number front + byte.toNat := by
        rw [number, List.foldl_append, ← number, List.foldl_cons, List.foldl_nil]
      rw [split, List.length_append, List.length_singleton, power]
      omega

/-- A record is that of a span, whose numbers are those that its fields write. -/
theorem isRecord_iff {record : List UInt8}
    : IsRecord record ↔ ∃ span : Span, span.Narrow ∧ span.record = record := by
  constructor
  · rintro ⟨eight, known⟩
    match record, eight with
    | [c₃, c₂, c₁, c₀, l₁, l₀, k₁, k₀], _ =>
        obtain ⟨kind, same⟩ := Kind.exists_ordinal (Int.natCast_nonneg (number [k₁, k₀]))
          (Int.ofNat_le.mpr known)
        refine ⟨⟨number [c₃, c₂, c₁, c₀], number [l₁, l₀], kind⟩,
          ⟨by simpa using number_lt [c₃, c₂, c₁, c₀], by simpa using number_lt [l₁, l₀]⟩, ?_⟩
        rw [Span.record, Int.ofNat_inj.mp same, fourBytes_number, twoBytes_number, twoBytes_number]
        rfl
  · rintro ⟨span, _, rfl⟩
    have known := span.kind.ordinal_lt
    have kind : number (twoBytes span.kind.ordinal) = span.kind.ordinal :=
      number_twoBytes (Nat.lt_trans known (by decide))
    refine ⟨rfl, ?_⟩
    show number (twoBytes span.kind.ordinal) ≤ 17
    omega

/-- Bytes are records exactly if they are those of spans, by induction over the records. -/
theorem recorded_iff {bytes : List UInt8}
    : Recorded bytes
      ↔ ∃ spans : List Span,
          (∀ span ∈ spans, span.Narrow) ∧ bytes = spans.flatMap Span.record := by
  constructor
  · rintro ⟨records, rfl, each⟩
    induction records with
    | nil => exact ⟨[], by simp, rfl⟩
    | cons record rest ih =>
        obtain ⟨here, later⟩ := List.forall_mem_cons.mp each
        obtain ⟨first, narrow, rfl⟩ := isRecord_iff.mp here
        obtain ⟨others, narrowOthers, joined⟩ := ih later
        refine ⟨first :: others, List.forall_mem_cons.mpr ⟨narrow, narrowOthers⟩, ?_⟩
        rw [List.flatten_cons, joined, List.flatMap_cons]
  · rintro ⟨spans, narrow, rfl⟩
    refine ⟨spans.map Span.record, List.flatMap_def, List.forall_mem_map.mpr ?_⟩
    exact fun span member => isRecord_iff.mpr ⟨span, narrow span member, rfl⟩

-----------------------------------------------------------------------------------------
-- Reading
-----------------------------------------------------------------------------------------

/-- The first record that is read has all bytes of the first span that is told. -/
theorem spans_cons_inv {c₃ c₂ c₁ c₀ l₁ l₀ k₁ k₀ : UInt8} {rest : List UInt8} {told : List Span}
    (read : spans (c₃ :: c₂ :: c₁ :: c₀ :: l₁ :: l₀ :: k₁ :: k₀ :: rest) = .ok told)
    : ∃ first others,
        told = first :: others
        ∧ first.Narrow
        ∧ first.record = [c₃, c₂, c₁, c₀, l₁, l₀, k₁, k₀]
        ∧ spans rest = .ok others := by
  have known : number [k₁, k₀] ≤ 17 := by
    simp only [spans] at read
    split at read
    next => contradiction
    next kind found => exact Kind.le_of_ofOrdinal? found
  have isRecord : IsRecord [c₃, c₂, c₁, c₀, l₁, l₀, k₁, k₀] := ⟨rfl, known⟩
  obtain ⟨first, narrow, record⟩ := isRecord_iff.mp isRecord
  have split : c₃ :: c₂ :: c₁ :: c₀ :: l₁ :: l₀ :: k₁ :: k₀ :: rest = first.record ++ rest := by
    rw [record]
    rfl
  rw [split, spans_record narrow.keeps] at read
  cases later : spans rest with
  | error fault =>
      rw [later] at read
      contradiction
  | ok others =>
      rw [later] at read
      exact ⟨first, others, (Except.ok.inj read).symm, narrow, record, rfl⟩

/-- Whole records that are read are those of the spans that are told, record by record. -/
theorem eq_flatMap_record_of_spans {bytes : List UInt8} {told : List Span}
    (whole : bytes.length % 8 = 0) (read : spans bytes = .ok told)
    : (∀ span ∈ told, span.Narrow) ∧ bytes = told.flatMap Span.record := by
  match bytes, whole with
  | [], _ =>
      obtain rfl := Except.ok.inj read
      simp
  | c₃ :: c₂ :: c₁ :: c₀ :: l₁ :: l₀ :: k₁ :: k₀ :: rest, whole =>
      obtain ⟨first, others, rfl, narrow, record, later⟩ := spans_cons_inv read
      have left : rest.length % 8 = 0 := by
        simp only [List.length_cons] at whole
        omega
      obtain ⟨narrowOthers, joined⟩ := eq_flatMap_record_of_spans left later
      refine ⟨List.forall_mem_cons.mpr ⟨narrow, narrowOthers⟩, ?_⟩
      rw [List.flatMap_cons, record, ← joined]
      rfl
  | [_], whole | [_, _], whole | [_, _, _], whole | [_, _, _, _], whole | [_, _, _, _, _], whole
  | [_, _, _, _, _, _], whole | [_, _, _, _, _, _, _], whole => simp at whole

/-- A payload is read as the spans whose records are its bytes. -/
theorem decode_eq_ok_iff {payload : String} {told : List Span}
    : decode payload = .ok told
      ↔ (∀ span ∈ told, span.Narrow) ∧ bytes payload = told.flatMap Span.record := by
  constructor
  · intro read
    simp only [decode] at read
    split at read
    next whole => exact eq_flatMap_record_of_spans whole read
    next => contradiction
  · rintro ⟨narrow, same⟩
    exact decode_of_bytes (Span.keeps_token narrow) same

/-- Payloads of the same bytes are read alike. -/
theorem decode_congr {payload other : String} (same : bytes payload = bytes other)
    : decode payload = decode other := by
  rw [decode, decode, same]

-----------------------------------------------------------------------------------------
-- Writing
-----------------------------------------------------------------------------------------

/-- What is written for some tokens is all that is ever written for its bytes. -/
theorem eq_ofBytes_of_encode {tokens : List Token} {payload : String}
    (written : encode tokens = .ok payload)
    : payload = ofBytes (bytes payload) := by
  simp only [encode, ok_of_bind_iff, pure, Except.pure, Except.ok.injEq] at written
  obtain ⟨recorded, _, rfl⟩ := written
  rw [← ofBytes, bytes_ofBytes]

/-- The bytes that are read are written again for the tokens that were told of. -/
theorem encode_of_decode {payload : String} {told : List Span} (read : decode payload = .ok told)
    : encode (told.map Span.token) = .ok (ofBytes (bytes payload)) := by
  obtain ⟨narrow, same⟩ := decode_eq_ok_iff.mp read
  rw [same]
  exact encode_of_keeps (Span.keeps_token narrow)

/-- A payload is read exactly if its bytes are whole records of known kinds. Writing what was read
as tokens then gives a payload of the same bytes, which is read alike, and is the very payload that
was read if that one was written for any tokens. Payloads that are read tell the same exactly if
they stand for the same bytes.
-/
theorem encode_decode_spans (payload : String)
    : ((∃ told, decode payload = .ok told) ↔ Recorded (bytes payload))
      ∧ ∀ told,
          decode payload = .ok told
          → (∃ again,
              encode (told.map Span.token) = .ok again
              ∧ bytes again = bytes payload
              ∧ decode again = .ok told
              ∧ ∀ tokens, encode tokens = .ok payload → again = payload)
            ∧ ∀ other others,
                decode other = .ok others → (others = told ↔ bytes other = bytes payload) := by
  constructor
  · rw [recorded_iff]
    exact exists_congr fun told => decode_eq_ok_iff
  · intro told read
    have same := bytes_ofBytes (bytes payload)
    refine ⟨⟨_, encode_of_decode read, same, (decode_congr same).trans read, ?_⟩, ?_⟩
    · intro tokens written
      exact (eq_ofBytes_of_encode written).symm
    · intro other others readOther
      constructor
      · rintro rfl
        rw [(decode_eq_ok_iff.mp readOther).2, (decode_eq_ok_iff.mp read).2]
      · intro alike
        exact Except.ok.inj (readOther.symm.trans ((decode_congr alike).trans read))

/-- One record in letters of the other alphabet, with blanks and a letter of none between them, and
without its padding.
-/
theorem encode_decode_untidy
    : decode "AA-_ AQ\nAE*AAM" = .ok [⟨1031937, 4, .function⟩]
      ∧ Recorded (bytes "AA-_ AQ\nAE*AAM")
      ∧ ∃ again,
          encode [.ofKind .function (.between 0 1031937 0 1031941)] = .ok again
          ∧ bytes again = bytes "AA-_ AQ\nAE*AAM"
          ∧ again = "AA+/AQAEAAM=" := by
  have read : decode "AA-_ AQ\nAE*AAM" = .ok [⟨1031937, 4, .function⟩] := by cbv
  have written : encode [.ofKind .function (.between 0 1031937 0 1031941)]
      = .ok "AA+/AQAEAAM=" := by cbv
  obtain ⟨accepted, reads⟩ := encode_decode_spans "AA-_ AQ\nAE*AAM"
  obtain ⟨⟨again, encoded, same, _⟩, _⟩ := reads _ read
  exact ⟨read, accepted.mp ⟨_, read⟩, again, encoded, same,
    Except.ok.inj (encoded.symm.trans written)⟩

end Payload

end Highlighter
