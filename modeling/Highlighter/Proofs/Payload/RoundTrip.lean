import Highlighter.Proofs.Line.Payloads
import Highlighter.Proofs.Number.Rounding
import Highlighter.Proofs.Payload.Base64

/-! Reading a payload gives back what it tells of each token: the start column and the kind as they
are, and the length modulo 65536. A token whose length is below that keeps it, and one that stops
left of where it starts has the complement.
-/

namespace Highlighter

-----------------------------------------------------------------------------------------
-- Records of spans
-----------------------------------------------------------------------------------------

namespace Span

/-- The record that stands for a span. -/
def record (span : Span) : List UInt8 :=
  Payload.fourBytes span.character ++ Payload.twoBytes span.length
    ++ Payload.twoBytes span.kind.ordinal

/-- A span is what the payload of a token tells of it. -/
structure Keeps (token : Token) (span : Span) : Prop where
  character : (span.character : Int) = token.range.start.character
  small : span.character < 4294967296
  length : span.length = Payload.wrappedLength token.range
  kind : (span.kind.ordinal : Int) = token.kind

end Span

/-- Every number from 0 to 17 is the ordinal of a kind, which is found by it. -/
theorem Kind.exists_ordinal {n : Int} (least : 0 ≤ n) (most : n ≤ 17)
    : ∃ kind : Kind, (kind.ordinal : Int) = n := by
  obtain ⟨n, rfl⟩ := Int.eq_ofNat_of_zero_le least
  have each : ∀ n ∈ List.range 18, ∃ kind ∈ Kind.all, kind.ordinal = n := by decide
  obtain ⟨kind, _, same⟩ := each n (List.mem_range.mpr (by omega))
  exact ⟨kind, congrArg Nat.cast same⟩

theorem Kind.ordinal_lt (kind : Kind) : kind.ordinal < 18 := by
  cases kind <;> decide

/-- A kind is found by its ordinal, so no other one has it. -/
theorem Kind.eq_of_ordinal {kind other : Kind} (same : kind.ordinal = other.ordinal)
    : kind = other := by
  have found := ofOrdinal?_ordinal kind
  rw [same, ofOrdinal?_ordinal] at found
  exact (Option.some.inj found).symm

namespace Payload

theorem number_twoBytes {n : Nat} (small : n < 65536) : number (twoBytes n) = n := by
  simp only [number, twoBytes, List.foldl_cons, List.foldl_nil, UInt8.toNat_ofNat']
  omega

theorem number_fourBytes {n : Nat} (small : n < 4294967296) : number (fourBytes n) = n := by
  simp only [number, fourBytes, List.foldl_cons, List.foldl_nil, UInt8.toNat_ofNat']
  omega

theorem wrappedLength_lt (range : Range) : wrappedLength range < 65536 := by
  rw [wrappedLength]
  omega

/-- A field keeps a natural number that it can hold. -/
theorem field_natCast {limit n : Nat} (small : n ≤ limit) : field limit n = .ok n := by
  simp [field, small]

variable {token : Token} {span : Span} {tokens : List Token} {spans : List Span}

/-- The record of a token is that of what is kept of it. -/
theorem record_of_keeps (keeps : span.Keeps token) : record token = .ok span.record := by
  have kindFits : span.kind.ordinal ≤ 65535 := by
    have := span.kind.ordinal_lt
    omega
  rw [record, ← keeps.character, ← keeps.kind, field_natCast (Nat.le_of_lt_succ keeps.small),
    field_natCast kindFits, ← keeps.length]
  rfl

/-- The records of tokens are those of what is kept of them, by induction over the tokens. -/
theorem records_of_keeps (keeps : List.Forall₂ Span.Keeps tokens spans)
    : records tokens = .ok (spans.flatMap Span.record) := by
  induction keeps with
  | nil => rfl
  | cons here _ ih =>
      rw [records, record_of_keeps here, ih]
      rfl

/-- The first of some records is read first, and then the others. -/
theorem spans_record (keeps : span.Keeps token) (rest : List UInt8)
    : Payload.spans (span.record ++ rest) = (Payload.spans rest).map (span :: ·) := by
  have character := number_fourBytes keeps.small
  have length : number (twoBytes span.length) = span.length :=
    number_twoBytes (keeps.length ▸ wrappedLength_lt token.range)
  have ordinal : number (twoBytes span.kind.ordinal) = span.kind.ordinal :=
    number_twoBytes (Nat.lt_trans span.kind.ordinal_lt (by decide))
  simp only [fourBytes, twoBytes] at character length ordinal
  simp only [Span.record, fourBytes, twoBytes, List.cons_append, List.nil_append, Payload.spans,
    character, length, ordinal, Kind.ofOrdinal?_ordinal]
  cases Payload.spans rest <;> rfl

/-- The records of spans are read as these spans, by induction over them. -/
theorem spans_flatMap_record (keeps : List.Forall₂ Span.Keeps tokens spans)
    : Payload.spans (spans.flatMap Span.record) = .ok spans := by
  induction keeps with
  | nil => rfl
  | cons here _ ih =>
      rw [List.flatMap_cons, spans_record here, ih]
      rfl

theorem length_flatMap_record (told : List Span)
    : (told.flatMap Span.record).length % 8 = 0 := by
  have eight (span : Span) : span.record.length = 8 := rfl
  simp [List.length_flatMap, eight]

/-- A payload whose bytes are records of spans is read as these spans. -/
theorem decode_of_bytes {payload : String} (keeps : List.Forall₂ Span.Keeps tokens spans)
    (same : bytes payload = spans.flatMap Span.record)
    : decode payload = .ok spans := by
  rw [decode, same]
  simp only [length_flatMap_record, if_true]
  exact spans_flatMap_record keeps

/-- A payload of its bytes as it is written. -/
def ofBytes (bytes : List UInt8) : String :=
  String.ofList (Base64.encode bytes)

theorem bytes_ofBytes (written : List UInt8) : bytes (ofBytes written) = written := by
  rw [bytes, ofBytes, String.toList_ofList, Base64.decode_encode]

/-- The payload of tokens is that of the records of what is kept of them. -/
theorem encode_of_keeps (keeps : List.Forall₂ Span.Keeps tokens spans)
    : encode tokens = .ok (ofBytes (spans.flatMap Span.record)) := by
  rw [encode, records_of_keeps keeps]
  rfl

/-- The payload of tokens is read as what is kept of them. Witness: its bytes are their records,
eight bytes each.
-/
theorem decode_of_keeps (keeps : List.Forall₂ Span.Keeps tokens spans)
    : ∃ payload, encode tokens = .ok payload ∧ decode payload = .ok spans :=
  ⟨_, encode_of_keeps keeps, decode_of_bytes keeps (bytes_ofBytes _)⟩

end Payload

/-- Something is kept of a token of a known kind that a record can hold. -/
theorem Token.Fits.exists_keeps {token : Token} (fits : token.Fits) (known : token.kind ≤ 17)
    : ∃ span : Span, span.Keeps token := by
  obtain ⟨kind, same⟩ := Kind.exists_ordinal fits.kind.1 known
  obtain ⟨character, start⟩ := Int.eq_ofNat_of_zero_le fits.character.1
  have small := fits.character.2
  refine ⟨⟨character, Payload.wrappedLength token.range, kind⟩, start.symm, ?_, rfl, same⟩
  show character < 4294967296
  omega

-----------------------------------------------------------------------------------------
-- What a payload tells
-----------------------------------------------------------------------------------------

/-- The columns from start to stop of a token, negative if it stops left of where it starts. -/
def Token.columns (token : Token) : Int :=
  token.range.stop.character - token.range.start.character

/-- A span has the start column and the kind of a token, and its columns modulo 65536. -/
structure Span.Tells (token : Token) (span : Span) : Prop where
  character : (span.character : Int) = token.range.start.character
  length : (span.length : Int) = token.columns % 65536
  kind : (span.kind.ordinal : Int) = token.kind

/-- What is kept of a token tells its columns, if they need no rounding. -/
theorem Span.Keeps.tells {token : Token} {span : Span} (keeps : span.Keeps token)
    (near : token.columns.natAbs ≤ 9007199254740992)
    : span.Tells token := by
  refine ⟨keeps.character, ?_, keeps.kind⟩
  have width : token.range.width = token.columns := nearestInt_of_natAbs_le near
  rw [keeps.length, Payload.wrappedLength, width]
  omega

/-- Tokens with start columns from 0 to 2^32 - 1, known kinds, and at most 2^53 columns in either
direction have a payload, and reading it tells of each of them in turn its start column, its columns
modulo 65536 and its kind. So fewer than 65536 columns are told as they are, and columns to the left
by their complement.
-/
theorem Payload.decode_encode_tokens {tokens : List Token}
    (starts
      : ∀ token ∈ tokens,
          0 ≤ token.range.start.character ∧ token.range.start.character ≤ 4294967295)
    (kinds : ∀ token ∈ tokens, 0 ≤ token.kind ∧ token.kind ≤ 17)
    (near : ∀ token ∈ tokens, token.columns.natAbs ≤ 9007199254740992)
    : ∃ payload spans,
        encode tokens = .ok payload
        ∧ decode payload = .ok spans
        ∧ List.Forall₂
            (fun token span =>
              span.Tells token
              ∧ (0 ≤ token.columns → token.columns < 65536
                → (span.length : Int) = token.columns)
              ∧ (-65536 ≤ token.columns → token.columns < 0
                → (span.length : Int) = token.columns + 65536))
            tokens spans := by
  have each : ∀ token ∈ tokens, ∃ span : Span, span.Keeps token := by
    intro token member
    obtain ⟨least, most⟩ := kinds token member
    have fits : token.Fits := ⟨starts token member, least, Int.le_trans most (by decide)⟩
    exact fits.exists_keeps most
  obtain ⟨spans, keeps⟩ := exists_forall₂ each
  obtain ⟨payload, encoded, decoded⟩ := decode_of_keeps keeps
  refine ⟨payload, spans, encoded, decoded, ?_⟩
  refine ((List.forall₂_and_left _ _).mpr ⟨near, keeps⟩).imp fun token span both => ?_
  have tells := both.2.tells both.1
  have modulo := tells.length
  refine ⟨tells, fun least most => ?_, fun least most => ?_⟩
  · rw [modulo, Int.emod_eq_of_lt least most]
  · omega

/-- A name, and a macro that is expanded from one line to further left on another. -/
def Token.crossing : List Token :=
  [.ofKind .function (.between 2 0 2 4), .ofKind .macroName (.between 3 10 5 2)]

/-- A token on one line and one over several lines. -/
theorem Payload.decode_encode_crossing
    : (∀ token ∈ Token.crossing,
        0 ≤ token.range.start.character ∧ token.range.start.character ≤ 4294967295)
      ∧ (∀ token ∈ Token.crossing, 0 ≤ token.kind ∧ token.kind ≤ 17)
      ∧ (∀ token ∈ Token.crossing, token.columns.natAbs ≤ 9007199254740992)
      ∧ ∃ payload spans,
          encode Token.crossing = .ok payload
          ∧ decode payload = .ok spans
          ∧ spans.map Span.length = [4, 65528] := by
  have starts : ∀ token ∈ Token.crossing,
      0 ≤ token.range.start.character ∧ token.range.start.character ≤ 4294967295 := by
    decide
  have kinds : ∀ token ∈ Token.crossing, 0 ≤ token.kind ∧ token.kind ≤ 17 := by decide
  have near : ∀ token ∈ Token.crossing, token.columns.natAbs ≤ 9007199254740992 := by decide
  obtain ⟨payload, spans, encoded, decoded, tells⟩ :=
    Payload.decode_encode_tokens starts kinds near
  refine ⟨starts, kinds, near, payload, spans, encoded, decoded, ?_⟩
  cases tells with
  | cons first rest =>
      cases rest with
      | cons second none =>
          cases none
          have short := first.2.1 (by decide) (by decide)
          have left := second.2.2 (by decide) (by decide)
          simp only [Token.columns, Token.ofKind, Range.between] at short left
          simp only [List.map_cons, List.map_nil, List.cons.injEq, and_true]
          omega

end Highlighter
