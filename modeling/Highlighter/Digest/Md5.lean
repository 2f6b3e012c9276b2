/-! The MD5 digest: a short fingerprint that tells directories apart by their paths. It protects
nothing; all that counts is that everyone who knows the path finds the same name.
-/

namespace Highlighter.Md5

/-- The four words that the digest is made of. -/
structure State where
  a : UInt32
  b : UInt32
  c : UInt32
  d : UInt32
deriving DecidableEq, Repr

namespace State

/-- The words before the first block. -/
def initial : State := ⟨0x67452301, 0xEFCDAB89, 0x98BADCFE, 0x10325476⟩

/-- Word by word sums. -/
def add (s t : State) : State := ⟨s.a + t.a, s.b + t.b, s.c + t.c, s.d + t.d⟩

end State

/-- The constants of the 64 steps: the fractions of sines, in units of 2^-32. -/
def sines : List UInt32 :=
  [0xD76AA478, 0xE8C7B756, 0x242070DB, 0xC1BDCEEE, 0xF57C0FAF, 0x4787C62A,
    0xA8304613, 0xFD469501, 0x698098D8, 0x8B44F7AF, 0xFFFF5BB1, 0x895CD7BE,
    0x6B901122, 0xFD987193, 0xA679438E, 0x49B40821, 0xF61E2562, 0xC040B340,
    0x265E5A51, 0xE9B6C7AA, 0xD62F105D, 0x02441453, 0xD8A1E681, 0xE7D3FBC8,
    0x21E1CDE6, 0xC33707D6, 0xF4D50D87, 0x455A14ED, 0xA9E3E905, 0xFCEFA3F8,
    0x676F02D9, 0x8D2A4C8A, 0xFFFA3942, 0x8771F681, 0x6D9D6122, 0xFDE5380C,
    0xA4BEEA44, 0x4BDECFA9, 0xF6BB4B60, 0xBEBFBC70, 0x289B7EC6, 0xEAA127FA,
    0xD4EF3085, 0x04881D05, 0xD9D4D039, 0xE6DB99E5, 0x1FA27CF8, 0xC4AC5665,
    0xF4292244, 0x432AFF97, 0xAB9423A7, 0xFC93A039, 0x655B59C3, 0x8F0CCC92,
    0xFFEFF47D, 0x85845DD1, 0x6FA87E4F, 0xFE2CE6E0, 0xA3014314, 0x4E0811A1,
    0xF7537E82, 0xBD3AF235, 0x2AD7D2BB, 0xEB86D391]

/-- The turns of the steps of each of the four rounds, which repeat after four steps. -/
def turns : List (List UInt32) :=
  [[7, 12, 17, 22], [5, 9, 14, 20], [4, 11, 16, 23], [6, 10, 15, 21]]

/-- A word turned to the left. -/
def rotateLeft (word turn : UInt32) : UInt32 :=
  (word <<< turn) ||| (word >>> (32 - turn))

/-- How a round mixes three words. -/
def mix (round : Nat) (b c d : UInt32) : UInt32 :=
  match round with
  | 0 => (b &&& c) ||| (~~~b &&& d)
  | 1 => (d &&& b) ||| (~~~d &&& c)
  | 2 => b ^^^ c ^^^ d
  | _ => c ^^^ (b ||| ~~~d)

/-- Which word of the block a step takes in. -/
def wordIndex (step : Nat) : Nat :=
  match step / 16 with
  | 0 => step
  | 1 => (5 * step + 1) % 16
  | 2 => (3 * step + 5) % 16
  | _ => 7 * step % 16

/-- One step on a block of sixteen words. -/
def step (block : List UInt32) (state : State) (index : Nat) : State :=
  let round := index / 16
  let word := (block[wordIndex index]?).getD 0
  let sine := (sines[index]?).getD 0
  let turn := ((turns[round]?).bind fun row => row[index % 4]?).getD 0
  let sum := state.a + mix round state.b state.c state.d + sine + word
  ⟨state.d, state.b + rotateLeft sum turn, state.b, state.c⟩

/-- Takes in a block. -/
def absorb (state : State) (block : List UInt32) : State :=
  state.add ((List.range 64).foldl (step block) state)

/-- The bytes of a number of eight bytes, least significant first. -/
def lengthBytes (bits : UInt64) : List UInt8 :=
  (List.range 8).map fun index => (bits >>> UInt64.ofNat (8 * index)).toUInt8

/-- The message made a whole number of blocks: a mark, zeros, and its length in bits. -/
def padded (message : List UInt8) : List UInt8 :=
  message ++ 0x80 :: List.replicate ((119 - message.length % 64) % 64) 0
    ++ lengthBytes (UInt64.ofNat (8 * message.length))

/-- Bytes as words, least significant byte first. -/
def words : List UInt8 → List UInt32
  | b₀ :: b₁ :: b₂ :: b₃ :: rest =>
      (b₀.toUInt32 ||| (b₁.toUInt32 <<< 8) ||| (b₂.toUInt32 <<< 16) ||| (b₃.toUInt32 <<< 24))
        :: words rest
  | _ => []

/-- Words in blocks of sixteen. -/
def blocks (words : List UInt32) : List (List UInt32) :=
  (List.range (words.length / 16)).map fun index => (words.drop (16 * index)).take 16

/-- The bytes of a word, least significant first. -/
def wordBytes (word : UInt32) : List UInt8 :=
  [word.toUInt8, (word >>> 8).toUInt8, (word >>> 16).toUInt8, (word >>> 24).toUInt8]

/-- The sixteen bytes of a message's digest. -/
def digest (message : List UInt8) : List UInt8 :=
  let state := (blocks (words (padded message))).foldl absorb .initial
  [state.a, state.b, state.c, state.d].flatMap wordBytes

end Highlighter.Md5
