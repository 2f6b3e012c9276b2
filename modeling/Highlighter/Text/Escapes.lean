/-! Escape sequences in text, by which a terminal is told something instead of shown something. A
sequence starts with an escape character and some brackets; then comes either a command, which is
numbers and a letter, or a string of words up to an end mark. Style codes are the commands that
change how text is shown.
-/

namespace Highlighter.Text.Escapes

/-- Which sequences are known. -/
structure Dialect where
  /-- A letter that can end a command. -/
  endsCommand : Char → Bool
  /-- What stands behind the end mark that a text starts with. -/
  behindEndMark : List Char → Option (List Char)

/-- A character that starts a sequence. -/
def isEscape (c : Char) : Bool := c.toNat = 0x1B || c.toNat = 0x9B

/-- A bracket or another sign behind the escape character. -/
def isOpening (c : Char) : Bool := "[]()#;?".contains c

/-- A character of a word in a string. -/
def isWordChar (c : Char) : Bool := c.isAlphanum || "-/#&.:=?%@~_".contains c

/-- A character of the words in a string, or between two of them. -/
def isStringChar (c : Char) : Bool := isWordChar c || c = ';'

/-- Each semicolon has a word behind it. -/
def hasAllWords : List Char → Bool
  | [] => true
  | ';' :: rest => (rest.head?).any isWordChar && hasAllWords rest
  | _ :: rest => hasAllWords rest

/-- What stands behind a string. Its first word is plain letters and digits, and only if there is
one may other words be empty.
-/
def behindString (dialect : Dialect) (text : List Char) : Option (List Char) :=
  let tail := text.dropWhile Char.isAlphanum
  if tail.head? ≠ some ';' then dialect.behindEndMark tail
  else if tail.length < text.length || hasAllWords (text.takeWhile isStringChar) then
    dialect.behindEndMark (tail.dropWhile isStringChar)
  else none

/-- How many digits a number has at most. -/
def numberDigits : Nat := 4

/-- Numbers with semicolons between them, and the rest; the first number has so many digits at most.
-/
def splitNumbers (room : Nat) : List Char → List Char × List Char
  | [] => ([], [])
  | c :: rest =>
      if c.isDigit && 0 < room then
        (c :: (splitNumbers (room - 1) rest).1, (splitNumbers (room - 1) rest).2)
      else if c = ';' then
        (c :: (splitNumbers numberDigits rest).1, (splitNumbers numberDigits rest).2)
      else ([], c :: rest)

/-- What stands behind a command. Without a letter its last digit counts as one. -/
def behindCommand (dialect : Dialect) (text : List Char) : Option (List Char) :=
  let (numbers, rest) :=
    if (text.head?).any Char.isDigit then splitNumbers numberDigits text else ([], text)
  match rest with
  | c :: behind =>
      if dialect.endsCommand c then some behind
      else if numbers.isEmpty then none
      else some ((numbers.reverse.takeWhile (· = ';')) ++ rest)
  | [] => if numbers.isEmpty then none else some (numbers.reverse.takeWhile (· = ';'))

/-- What stands behind a string or a command. -/
def behindBody (dialect : Dialect) (text : List Char) : Option (List Char) :=
  (behindString dialect text).or (behindCommand dialect text)

/-- The number of characters of a sequence behind its escape character, if there is one. As many
signs as possible open it.
-/
def tailLength (dialect : Dialect) (text : List Char) : Option Nat :=
  let most := (text.takeWhile isOpening).length
  let behind := (List.range (most + 1)).reverse.findSome? fun opening =>
    behindBody dialect (text.drop opening)
  behind.map fun behind => text.length - behind.length

/-- A text without some sequences: `tail?` is the number of characters that belong to one behind its
first character. So many characters at the start belong to one already.
-/
def without (tail? : Char → List Char → Option Nat) : Nat → List Char → List Char
  | _, [] => []
  | skipped + 1, _ :: rest => without tail? skipped rest
  | 0, c :: rest =>
      match tail? c rest with
      | some length => without tail? length rest
      | none => c :: without tail? 0 rest

/-- A text without escape sequences. -/
def remove (dialect : Dialect) (text : List Char) : List Char :=
  without (fun c rest => if isEscape c then tailLength dialect rest else none) 0 text

/-- The bell, which ends a string in every dialect. -/
def bell : Char := '\x07'

/-- Few letters end a command and only the bell a string. -/
def narrow : Dialect where
  endsCommand c := c.isDigit || "ABCDEFGHIJKLMNOPRSTUVWXYZcfghijklmnqrty=><~".contains c
  behindEndMark
    | c :: rest => if c = bell then some rest else none
    | [] => none

/-- More letters end a command, and other marks too a string. -/
def broad : Dialect where
  endsCommand c := narrow.endsCommand c || c = 's' || c = 'u'
  behindEndMark
    | '\x1b' :: '\\' :: rest => some rest
    | c :: rest => if c = bell || c.toNat = 0x9C then some rest else none
    | [] => none

/-- The numbers of the style code that a text starts with behind an escape character, and what
stands behind it. A style code has at most six numbers.
-/
def styleCode? : List Char → Option (List Char × List Char)
  | '[' :: text =>
      let isNumbers (c : Char) : Bool := c.isDigit || c = ';'
      let numbers := text.takeWhile isNumbers
      match text.dropWhile isNumbers with
      | 'm' :: rest => if 5 < numbers.count ';' then none else some (numbers, rest)
      | _ => none
  | _ => none

/-- A text without style codes. -/
def removeStyles (text : List Char) : List Char :=
  without (fun c rest =>
    if c = '\x1b' then (styleCode? rest).map fun code => rest.length - code.2.length
    else none) 0 text

end Highlighter.Text.Escapes
