import Highlighter.Json
import Highlighter.Number.Digits
import Highlighter.Text.Units

/-! Reading a JSON text, strictly by its grammar. One pass over the characters cuts the text into
lexemes, and each lexeme as it ends is pushed onto the stack of values that are still open, so
reading is a fold over the text and needs no recursion of its own. The last of several members of
one name counts, and names that are array indices come first, in ascending order.
-/

namespace Highlighter.Json

open Digits (hexValue? readNat readExponent)

/-- The fraction at the head of a text: the digits after a point, none without a point. -/
def readFraction : List Char → Option (List Char × List Char)
  | '.' :: rest =>
      let digits := rest.takeWhile Char.isDigit
      if digits.isEmpty then none else some (digits, rest.dropWhile Char.isDigit)
  | text => some ([], text)

/-- The whole digits of a number: a single zero, or digits that start with none. -/
def readWhole (text : List Char) : Option (List Char × List Char) :=
  match text.takeWhile Char.isDigit with
  | [] => none
  | '0' :: _ :: _ => none
  | digits => some (digits, text.dropWhile Char.isDigit)

/-- The number that a text without a sign writes. -/
def readMagnitude (negative : Bool) (text : List Char) : Option Number := do
  let (whole, rest) ← readWhole text
  let (fraction, rest) ← readFraction rest
  let exponent ← readExponent rest
  some (.ofDecimal negative (readNat (whole ++ fraction)) (exponent - fraction.length))

/-- The number that a text writes: digits without needless zeros, a fraction and an exponent. -/
def readNumber : List Char → Option Number
  | '-' :: text => readMagnitude true text
  | text => readMagnitude false text

/-- A unit of the grammar: punctuation, or a value that is not a container. -/
inductive Lexeme where
  | openArray
  | closeArray
  | openObject
  | closeObject
  | comma
  | colon
  | scalar (value : Json)

/-- A container that is still open, its parts in reverse. An object is waiting for the value of
`key`.
-/
inductive Frame where
  | array (items : List Json)
  | object (members : List (String × Json)) (key : String)

/-- What may come next. -/
inductive Stage where
  | value
  | firstItem
  | firstKey
  | key (members : List (String × Json))
  | colon (members : List (String × Json)) (key : String)
  | afterItem (items : List Json)
  | afterMember (members : List (String × Json))
  | done (value : Json)

/-- The open containers, innermost first, and what may come next. -/
structure Stack where
  frames : List Frame
  stage : Stage

/-- The text is an array index: a decimal without needless zeros, below 2^32 - 1. -/
def arrayIndex? (key : String) : Option Nat :=
  let digits := key.toList
  if digits.isEmpty || !digits.all Char.isDigit then none
  else if 1 < digits.length && digits.head? == some '0' then none
  else if 10 < digits.length then none
  else
    let index := readNat digits
    if index < 4294967295 then some index else none

/-- Adds a member, or replaces the value of the member of that name. -/
def put (key : String) (value : Json) : List (String × Json) → List (String × Json)
  | [] => [(key, value)]
  | (name, old) :: rest =>
      if name = key then (name, value) :: rest else (name, old) :: put key value rest

/-- Members in their order in an object: array indices ascending, then the others as they came. -/
def orderMembers (members : List (String × Json)) : List (String × Json) :=
  let indexed := members.filterMap fun member =>
    (arrayIndex? member.1).map fun index => (index, member)
  let named := members.filter fun member => (arrayIndex? member.1).isNone
  (indexed.mergeSort fun a b => a.1 ≤ b.1).map (·.2) ++ named

/-- The object of the members that were read, given in reverse. -/
def ofMembers (members : List (String × Json)) : Json :=
  .object (orderMembers (members.foldr (fun member kept => put member.1 member.2 kept) []))

/-- A finished value goes to the container that is waiting for it. -/
def Stack.finish (value : Json) : List Frame → Stack
  | [] => ⟨[], .done value⟩
  | .array items :: frames => ⟨frames, .afterItem (value :: items)⟩
  | .object members key :: frames => ⟨frames, .afterMember ((key, value) :: members)⟩

/-- Reads a lexeme where a value may start. -/
def Stack.startValue (frames : List Frame) : Lexeme → Option Stack
  | .openArray => some ⟨frames, .firstItem⟩
  | .openObject => some ⟨frames, .firstKey⟩
  | .scalar value => some (.finish value frames)
  | _ => none

/-- Reads a lexeme where a member's name may start. -/
def Stack.startKey (frames : List Frame) (members : List (String × Json))
    : Lexeme → Option Stack
  | .scalar (.string key) => some ⟨frames, .colon members key⟩
  | _ => none

/-- Reads one lexeme. -/
def Stack.push (stack : Stack) (lexeme : Lexeme) : Option Stack :=
  let frames := stack.frames
  match stack.stage, lexeme with
  | .value, lexeme => Stack.startValue frames lexeme
  | .firstItem, .closeArray => some (.finish (.array []) frames)
  | .firstItem, lexeme => Stack.startValue (.array [] :: frames) lexeme
  | .firstKey, .closeObject => some (.finish (.object []) frames)
  | .firstKey, lexeme => Stack.startKey frames [] lexeme
  | .key members, lexeme => Stack.startKey frames members lexeme
  | .colon members key, .colon => some ⟨.object members key :: frames, .value⟩
  | .afterItem items, .comma => some ⟨.array items :: frames, .value⟩
  | .afterItem items, .closeArray => some (.finish (.array items.reverse) frames)
  | .afterMember members, .comma => some ⟨frames, .key members⟩
  | .afterMember members, .closeObject => some (.finish (ofMembers members) frames)
  | _, _ => none

/-- Where the reader stands between two characters. Texts are kept in reverse. -/
inductive Cursor where
  | between
  | word (letters : List Char)
  | number (digits : List Char)
  /-- Inside quotes; a high surrogate that was just escaped waits for its other half. -/
  | quoted (text : List Char) (high : Option Nat)
  | escaped (text : List Char) (high : Option Nat)
  | escapedUnit (text : List Char) (high : Option Nat) (digits : Nat) (unit : Nat)

/-- The reader's position: the stack so far and the lexeme that is being read. -/
structure Reader where
  stack : Stack
  cursor : Cursor

/-- The text so far, with a replacement character for a high surrogate without its other half: half
a pair is no character, and texts are made of characters.
-/
def settle (text : List Char) : Option Nat → List Char
  | none => text
  | some _ => Char.ofNat 0xFFFD :: text

/-- The text so far after an escaped unit, and the high surrogate that now waits, if any. A low one
that nothing waits for is replaced like a high one.
-/
def joinUnit (text : List Char) (high : Option Nat) (unit : Nat)
    : List Char × Option Nat :=
  if Text.isLowSurrogate unit then
    match high with
    | some high => (Text.ofSurrogates high unit :: text, none)
    | none => (Char.ofNat 0xFFFD :: text, none)
  else if Text.isHighSurrogate unit then (settle text high, some unit)
  else (Char.ofNat unit :: settle text high, none)

/-- The character that a one-letter escape stands for. -/
def escapedChar? (c : Char) : Option Char :=
  match c with
  | '"' => some '"'
  | '\\' => some '\\'
  | '/' => some '/'
  | 'b' => some (Char.ofNat 8)
  | 'f' => some (Char.ofNat 12)
  | 'n' => some '\n'
  | 'r' => some '\r'
  | 't' => some '\t'
  | _ => none

/-- The value that a bare word stands for. -/
def wordValue? (letters : List Char) : Option Json :=
  if letters = ['n', 'u', 'l', 'l'] then some .null
  else if letters = ['t', 'r', 'u', 'e'] then some (.bool true)
  else if letters = ['f', 'a', 'l', 's', 'e'] then some (.bool false)
  else none

/-- A blank of the grammar. -/
def isBlank (c : Char) : Bool :=
  c = ' ' || c = '\t' || c = '\n' || c = '\r'

/-- A character that may stand in a number. -/
def isNumeric (c : Char) : Bool :=
  c.isDigit || c = '-' || c = '+' || c = '.' || c = 'e' || c = 'E'

namespace Reader

/-- Pushes a lexeme that has ended. -/
def emit (reader : Reader) (lexeme : Lexeme) : Option Reader :=
  (reader.stack.push lexeme).map fun stack => ⟨stack, .between⟩

/-- Reads a character between lexemes. -/
def startLexeme (reader : Reader) (c : Char) : Option Reader :=
  if isBlank c then some { reader with cursor := .between }
  else if c = '[' then reader.emit .openArray
  else if c = ']' then reader.emit .closeArray
  else if c = '\x7b' then reader.emit .openObject
  else if c = '\x7d' then reader.emit .closeObject
  else if c = ',' then reader.emit .comma
  else if c = ':' then reader.emit .colon
  else if c = '"' then some { reader with cursor := .quoted [] none }
  else if c.isDigit || c = '-' then some { reader with cursor := .number [c] }
  else if c.isAlpha then some { reader with cursor := .word [c] }
  else none

/-- Ends the word or number that is being read, if any. -/
def endLexeme (reader : Reader) : Option Reader :=
  match reader.cursor with
  | .between => some reader
  | .word letters => do
      let value ← wordValue? letters.reverse
      reader.emit (.scalar value)
  | .number digits => do
      let value ← readNumber digits.reverse
      reader.emit (.scalar (.number value))
  | _ => none

/-- Reads a character inside quotes. -/
def readQuoted (reader : Reader) (text : List Char) (high : Option Nat) (c : Char)
    : Option Reader :=
  if c = '"' then
    reader.emit (.scalar (.string (String.ofList (settle text high).reverse)))
  else if c = '\\' then some { reader with cursor := .escaped text high }
  else if c.toNat < 32 then none
  else some { reader with cursor := .quoted (c :: settle text high) none }

/-- Reads one character. -/
def read (reader : Reader) (c : Char) : Option Reader :=
  match reader.cursor with
  | .between => reader.startLexeme c
  | .word letters =>
      if c.isAlpha then some { reader with cursor := .word (c :: letters) }
      else reader.endLexeme.bind (·.startLexeme c)
  | .number digits =>
      if isNumeric c then some { reader with cursor := .number (c :: digits) }
      else reader.endLexeme.bind (·.startLexeme c)
  | .quoted text high => reader.readQuoted text high c
  | .escaped text high =>
      if c = 'u' then some { reader with cursor := .escapedUnit text high 0 0 }
      else (escapedChar? c).map fun escaped =>
        { reader with cursor := .quoted (escaped :: settle text high) none }
  | .escapedUnit text high digits unit =>
      (hexValue? c).map fun digit =>
        let unit := 16 * unit + digit
        if digits = 3 then
          let (text, high) := joinUnit text high unit
          { reader with cursor := .quoted text high }
        else
          { reader with cursor := .escapedUnit text high (digits + 1) unit }

/-- Reads characters until one does not fit. -/
def readAll : Reader → List Char → Option Reader
  | reader, [] => some reader
  | reader, c :: rest => (reader.read c).bind fun next => next.readAll rest

end Reader

/-- The value that a text writes, if it is a JSON text. -/
def parse? (text : String) : Option Json := do
  let reader ← Reader.readAll ⟨⟨[], .value⟩, .between⟩ text.toList
  let ended ← reader.endLexeme
  match ended.stack.stage with
  | .done value => some value
  | _ => none

end Highlighter.Json
