import Highlighter.Console.Value
import Highlighter.Json.Reader
import Highlighter.Text.Units

/-! The arguments of a command line: options with their values, and all others by position. An
argument that starts with a dash names options, one by a word or several by their letters; the
argument behind it is the value unless it starts with a dash too. A switch takes no value, so
what stands behind it counts by its position. Behind a dot stands the name of a part of an option's
value. Nothing behind a bare double dash is looked at.
-/

namespace Highlighter.Console

/-- A part of a value cannot be set. -/
inductive PartFault where
  /-- A scalar has no parts. -/
  | scalar (part : String) (value : Json)
  /-- The characters of a text and their number stay as they are. -/
  | fixed (part text : String)

/-- How a fault is worded. -/
def PartFault.message : PartFault → String
  | scalar part value =>
      "Cannot create property '" ++ part ++ "' on " ++ kindWord value ++ " '"
        ++ plainText value ++ "'"
  | fixed part text =>
      "Cannot assign to read only property '" ++ part ++ "' of string '" ++ text ++ "'"

/-- The index below a bound that a name writes. -/
def index? (bound : Nat) (name : String) : Option Nat :=
  match name.toNat? with
  | some index => if index < bound && toString index = name then some index else none
  | none => none

/-- A value that parts can be put into: an array if the first of them is named by a number. -/
def wholeFor : List String → Json
  | [] => .null
  | part :: _ =>
      match Numeral.read? part with
      | some number => if number.atMost (.ofInt (-1)) then .object [] else .array []
      | none => .object []

/-- Puts a value at the end of a path of parts. An array takes an item at most right behind its
last one; with any other part it becomes an object.
-/
def setPart (value : Json) : List String → Json → Except PartFault Json
  | [], _ => .ok value
  | part :: rest, whole =>
      match whole with
      | .object members => do
          let inner ← setPart value rest ((Json.lookup part members).getD (wholeFor rest))
          return .object (Json.put part inner members)
      | .array items =>
          match index? (items.length + 1) part with
          | some index => do
              let inner ← setPart value rest ((items[index]?).getD (wholeFor rest))
              return .array (items.take index ++ inner :: items.drop (index + 1))
          | none => do
              let members := items.zipIdx.map fun (item, index) => (toString index, item)
              let inner ← setPart value rest (wholeFor rest)
              return .object (Json.put part inner members)
      | .string text =>
          if part = "length" || (index? (Text.length16 text.toList) part).isSome then
            .error (.fixed part text)
          else .error (.scalar part whole)
      | scalar => .error (.scalar part scalar)

/-- What a command line gives. -/
structure Arguments where
  positions : List Json
  options : List (String × Json)

namespace Arguments

/-- Nothing. -/
def empty : Arguments := ⟨[], []⟩

/-- A text as a number if it gives a finite one. -/
def ofText (text : String) : Json :=
  match Numeral.read? text with
  | some (.infinite _) | none => .string text
  | some number => .number number

/-- Adds an argument by position. -/
def addPosition (arguments : Arguments) (value : Json) : Arguments :=
  { arguments with positions := arguments.positions ++ [value] }

/-- The name that no option can have. -/
def reservedName : String := "__proto__"

/-- The name of the option whose values count by their position. -/
def positionsName : String := "_"

/-- Gives an option its value, in the place of the one before. -/
def set (arguments : Arguments) (name : String) (value : Json) : Arguments :=
  if name = reservedName then arguments
  else { arguments with options := Json.put name value arguments.options }

/-- Gives an option one more value. -/
def add (arguments : Arguments) (name : String) (value : Json) : Arguments :=
  if name = positionsName then arguments.addPosition value
  else
    match Json.lookup name arguments.options with
    | none | some .null => arguments.set name value
    | some (.array values) => arguments.set name (.array (values ++ [value]))
    | some single => arguments.set name (.array [single, value])

/-- Turns an option on. -/
def turnOn (arguments : Arguments) (name : String) : Arguments :=
  arguments.add name (.bool true)

/-- Gives an option the text behind it. A switch only understands whether it is on, and hands on
every other text.
-/
def give (switches : List String) (arguments : Arguments) (name text : String) : Arguments :=
  if switches.contains name then
    if text = "false" then arguments.add name (.bool false)
    else if text = "true" then arguments.turnOn name
    else (arguments.addPosition (ofText text)).add name (.bool (text ≠ ""))
  else arguments.add name (ofText text)

/-- Gives a text to the last of some options; the others are turned on. -/
def giveLast (switches : List String) (arguments : Arguments) (text : String)
    : List String → Arguments
  | [] => arguments
  | [name] => arguments.give switches name text
  | name :: rest => giveLast switches (arguments.turnOn name) text rest

/-- What an argument is. -/
inductive Part where
  | position (text : String)
  | off (name : String)
  /-- Options, and the text behind an equality sign. -/
  | named (names : List String) (text : String)
deriving DecidableEq, Repr

/-- The options that are written behind dashes. -/
def namesOf (dashes : Nat) (written : String) : List String :=
  if dashes = 2 then [written] else written.toList.map String.singleton

/-- Takes an argument apart. -/
def Part.ofText (text : String) : Part :=
  let letters := text.toList
  let dashes := (letters.takeWhile (· = '-')).length
  let body := letters.drop dashes
  if dashes = 0 then .position text
  else if body.take 3 = "no-".toList then .off (String.ofList (body.drop 3))
  else
    let name := body.take 1 ++ (body.drop 1).takeWhile (· ≠ '=')
    .named (namesOf dashes (String.ofList name)) (String.ofList (body.drop (name.length + 1)))

/-- A command line as far as it has been read: what it gives, and the options that take the next
argument unless it starts with a dash.
-/
structure Reading where
  arguments : Arguments
  waiting : Option (List String)

namespace Reading

/-- Options that got no value are turned on. -/
def settle (reading : Reading) : Arguments :=
  (reading.waiting.getD []).foldl turnOn reading.arguments

/-- Takes an argument by itself. -/
def start (switches : List String) (arguments : Arguments) (text : String) : Reading :=
  match Part.ofText text with
  | .position text => ⟨arguments.addPosition (.string text), none⟩
  | .off name => ⟨arguments.set name (.bool false), none⟩
  | .named names text =>
      if text = "" then ⟨arguments, some names⟩
      else ⟨arguments.giveLast switches text names, none⟩

/-- Takes the next argument. -/
def next (switches : List String) (reading : Reading) (text : String) : Reading :=
  match reading.waiting with
  | none => start switches reading.arguments text
  | some names =>
      if text.startsWith "-" then start switches reading.settle text
      else ⟨reading.arguments.giveLast switches text names, none⟩

end Reading

/-- Two names of one option have the value of the one that was given first. -/
def share (arguments : Arguments) (names : String × String) : Arguments :=
  match arguments.options.find? fun option => option.1 = names.1 || option.1 = names.2 with
  | some (_, value) => (arguments.set names.1 value).set names.2 value
  | none => arguments

/-- Words that a dash joins, as one word. -/
def camelCase : List Char → List Char
  | a :: dash :: b :: rest =>
      if a.isLower && dash = '-' && b.isLower then a :: b.toUpper :: camelCase rest
      else a :: camelCase (dash :: b :: rest)
  | letters => letters

/-- The name that an option is known by; the names of parts behind it are as they are written. -/
def knownName (name : String) : String :=
  let letters := name.toList
  String.ofList (camelCase (letters.takeWhile (· ≠ '.')) ++ letters.dropWhile (· ≠ '.'))

/-- Gives an option, or the part of one that its name leads to, a value. -/
def givePart (options : List (String × Json)) (option : String × Json)
    : Except PartFault (List (String × Json)) :=
  match option.1.splitOn "." with
  | [] => .ok options
  | name :: parts => do
      let value ← setPart option.2 parts ((Json.lookup name options).getD (wholeFor parts))
      return Json.put name value options

/-- All options under the names that they are known by, on top of the `standards`. -/
def normalized (standards : List (String × Json)) (arguments : Arguments)
    : Except PartFault Arguments := do
  let named := arguments.options.foldl
    (fun options option => Json.put (knownName option.1) option.2 options) []
  let options ← (Json.orderMembers named).foldlM givePart standards
  return { arguments with options := Json.orderMembers options }

/-- Reads a command line. The `aliases` are pairs of names for one option, and the `standards` the
values of options that are not given.
-/
def parse (switches : List String) (aliases : List (String × String))
    (standards : List (String × Json)) (texts : List String) : Except PartFault Arguments :=
  let reading := (texts.takeWhile (· ≠ "--")).foldl (Reading.next switches) ⟨empty, none⟩
  (aliases.foldl share reading.settle).normalized standards

/-- The value of an option. -/
def option? (arguments : Arguments) (name : String) : Option Json :=
  Json.lookup name arguments.options

/-- The option is given and not turned off. -/
def isOn (arguments : Arguments) (name : String) : Bool :=
  (arguments.option? name).any isTruthy

end Arguments

end Highlighter.Console
