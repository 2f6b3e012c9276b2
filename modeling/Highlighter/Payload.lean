import Highlighter.Line
import Highlighter.Payload.Base64

/-! The tokens of one line as text: eight bytes a token, in base64. A record holds the start column
in four bytes, the length in two and the kind in two, most significant byte first; the length wraps
at 65536 and the other two must fit.
-/

namespace Highlighter

/-- A field of a record cannot hold the value. -/
structure Overflow where
  limit : Nat
  value : Int
deriving DecidableEq, Repr

namespace Overflow

/-- Letters in groups of three from the right, a group of up to three left over in front. -/
def groupThrees : List Char → List Char
  | a :: b :: c :: d :: rest =>
      if (rest.length + 4) % 3 = 1 then a :: '_' :: groupThrees (b :: c :: d :: rest)
      else if (rest.length + 4) % 3 = 2 then
        a :: b :: '_' :: groupThrees (c :: d :: rest)
      else a :: b :: c :: '_' :: groupThrees (d :: rest)
  | text => text

/-- A value as the fault shows it: beyond 2^32 its letters are in groups of three, the sign apart.
-/
def valueText (value : Int) : String :=
  let text := integerText value
  if value.natAbs ≤ 4294967296 then text
  else
    match text.toList with
    | '-' :: digits => String.ofList ('-' :: groupThrees digits)
    | digits => String.ofList (groupThrees digits)

/-- How the fault is worded. -/
def message (fault : Overflow) : String :=
  "The value of \"value\" is out of range. It must be >= 0 and <= " ++ toString fault.limit
    ++ ". Received " ++ valueText fault.value

end Overflow

/-- What a payload tells of a token: its line and its stop are known from elsewhere or lost. -/
structure Span where
  character : Nat
  length : Nat
  kind : Kind
deriving DecidableEq, Repr

namespace Payload

/-- A natural number below 2^16 in two bytes. -/
def twoBytes (n : Nat) : List UInt8 :=
  [UInt8.ofNat (n / 256), UInt8.ofNat n]

/-- A natural number below 2^32 in four bytes. -/
def fourBytes (n : Nat) : List UInt8 :=
  [UInt8.ofNat (n / 16777216), UInt8.ofNat (n / 65536), UInt8.ofNat (n / 256), UInt8.ofNat n]

/-- The value as a field that holds at most `limit`. -/
def field (limit : Nat) (value : Int) : Except Overflow Nat :=
  match value with
  | .ofNat n => if n ≤ limit then .ok n else .error ⟨limit, value⟩
  | .negSucc _ => .error ⟨limit, value⟩

/-- The length of a token as its record keeps it: the columns between start and stop, which may be
negative over several lines, modulo 65536.
-/
def wrappedLength (range : Range) : Nat :=
  (range.width % 65536).toNat

/-- The eight bytes of a token. Its start column is checked before its kind. -/
def record (token : Token) : Except Overflow (List UInt8) := do
  let character ← field 4294967295 token.range.start.character
  let kind ← field 65535 token.kind
  return fourBytes character ++ twoBytes (wrappedLength token.range) ++ twoBytes kind

/-- The records of tokens; the first fault counts. -/
def records : List Token → Except Overflow (List UInt8)
  | [] => .ok []
  | token :: rest => do
      let first ← record token
      let others ← records rest
      return first ++ others

/-- The payload of a line's tokens. -/
def encode (tokens : List Token) : Except Overflow String := do
  let bytes ← records tokens
  return String.ofList (Base64.encode bytes)

/-- A text is no payload: its bytes are not whole records, or a record has no kind. -/
inductive Malformed where
  | length (bytes : Nat)
  | kind (ordinal : Nat)
deriving DecidableEq, Repr

namespace Malformed

/-- How the fault is worded. -/
def message : Malformed → String
  | length bytes => "Invalid token payload length: " ++ toString bytes ++ " bytes"
  | kind ordinal => "Unknown highlighting kind: " ++ toString ordinal

end Malformed

/-- The number that bytes write, most significant first. -/
def number (bytes : List UInt8) : Nat :=
  bytes.foldl (fun n byte => 256 * n + byte.toNat) 0

/-- The spans of whole records; the first unknown kind counts. -/
def spans : List UInt8 → Except Malformed (List Span)
  | c₃ :: c₂ :: c₁ :: c₀ :: l₁ :: l₀ :: k₁ :: k₀ :: rest =>
      let ordinal := number [k₁, k₀]
      match Kind.ofOrdinal? ordinal with
      | none => .error (.kind ordinal)
      | some kind => do
          let others ← spans rest
          return ⟨number [c₃, c₂, c₁, c₀], number [l₁, l₀], kind⟩ :: others
  | _ => .ok []

/-- The bytes that a payload stands for. -/
def bytes (payload : String) : List UInt8 :=
  Base64.decode payload.toList

/-- The spans of a payload. -/
def decode (payload : String) : Except Malformed (List Span) :=
  let bytes := bytes payload
  if bytes.length % 8 = 0 then spans bytes else .error (.length bytes.length)

end Payload

/-- A line with its tokens as a payload; a line without tokens has the empty payload. -/
structure EncodedLine where
  line : Int
  payload : String
deriving DecidableEq, Repr

namespace EncodedLine

/-- A line with its tokens encoded. -/
def ofLine (line : Line) : Except Overflow EncodedLine := do
  return ⟨line.line, ← Payload.encode line.tokens⟩

/-- Lines with their tokens encoded; the first fault counts. -/
def ofLines : List Line → Except Overflow (List EncodedLine)
  | [] => .ok []
  | line :: rest => do
      let first ← ofLine line
      let others ← ofLines rest
      return first :: others

end EncodedLine

end Highlighter
