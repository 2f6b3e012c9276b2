import Highlighter.Console.Command
import Highlighter.Console.Presentation
import Highlighter.Document.Wire
import Highlighter.Files
import Highlighter.Http.Server
import Highlighter.Payload

/-! What a command line comes to. Some commands need nothing else; the others have a question for
the server of their directory, and show what it answers.
-/

namespace Highlighter.Console

/-- A command is refused for the way it is written. -/
inductive Refusal where
  | unknownOption (name : String)
  | missingValue (option : String)
  | missingArgument (command : String)
  /-- A part of an option cannot be set. -/
  | badPart (fault : PartFault)

/-- How a refusal is worded. -/
def Refusal.message : Refusal → String
  | unknownOption name =>
      "Unknown option \x60" ++ (if Text.length16 name.toList ≤ 1 then "-" else "--") ++ name
        ++ "\x60"
  | missingValue option => "option \x60" ++ option ++ "\x60 value is missing"
  | missingArgument command =>
      "missing required args for command \x60" ++ command ++ "\x60"
  | badPart fault => fault.message

/-- The word for the kind of a refusal. -/
def Refusal.kind : Refusal → String
  | badPart _ => "TypeError"
  | _ => "CACError"

/-- What is seen of a command that has come to its end. -/
structure Outcome where
  /-- What it prints, one entry a call. -/
  log : List Json
  /-- What it prints about failures. -/
  errors : List String
  /-- The exit code that it sets itself. -/
  exit : Option Nat
  refusal : Option Refusal

namespace Outcome

/-- The command prints something. -/
def printed (log : List Json) : Outcome := ⟨log, [], none, none⟩

/-- The command fails with a message. -/
def failed (message : String) : Outcome := ⟨[], ["Error: " ++ message], some 1, none⟩

/-- The command shows a value, or fails for want of a way to. -/
def shown (table : Bool) (data : Json) : Outcome :=
  match present table data with
  | .ok log => printed log
  | .error fault => failed fault.message

/-- The command is refused. -/
def refused (refusal : Refusal) : Outcome := ⟨[], [], none, some refusal⟩

/-- No server runs that could be asked, and one is about to be started. -/
def serverless : Outcome := ⟨[], ["Server not running. Starting server..."], none, none⟩

end Outcome

/-- A question for the server of a directory. -/
structure Question where
  call : Http.Call
  /-- What is seen if there is no server. -/
  absent : Outcome
  /-- What is seen of an answer, by its status and body. -/
  answered : Nat → Json → Outcome

/-- What a command line comes to. -/
inductive Plan where
  | finished (outcome : Outcome)
  | asking (question : Question)

/-- What is seen if there is no server. -/
def Plan.withoutServer : Plan → Outcome
  | finished outcome => outcome
  | asking question => question.absent

/-- An answer was a success. -/
def isSuccess (status : Nat) : Bool := 200 ≤ status && status < 300

namespace Question

/-- A question whose answer is shown if it is a success, and else reported as a failure. -/
def showing (call : Http.Call) (outcome : Json → Outcome) : Question :=
  { call
    absent := .serverless
    answered := fun status body =>
      if isSuccess status then outcome body
      else .failed (toString status ++ " - " ++ body.compact) }

/-- Asks for the tokens of a tree. -/
def tokens (table : Bool) (path : String) : Question :=
  showing ⟨"GET", "/tokens?path=" ++ Http.Query.encode path, none⟩ fun body =>
    .shown table ((body.get? "tokens").getD .null)

/-- Asks for the changed lines of a document. -/
def highlight (table : Bool) (uri : Json) (version : Option Number) (path : String)
    : Question :=
  let body := .object [("uri", uri), ("version", .orNull .number version),
    ("path", .string path)]
  showing ⟨"POST", "/highlight", some body⟩ (.shown table)

/-- Asks to forget a document. -/
def close (uri : Json) : Question :=
  showing ⟨"POST", "/close", some (.object [("uri", uri)])⟩ (.shown false)

/-- Asks for the names and scopes of the kinds. -/
def scopes (table : Bool) : Question :=
  showing ⟨"GET", "/scopes", none⟩ (.shown table)

/-- Asks the server to stop. -/
def stop : Question where
  call := ⟨"POST", "/shutdown", some (.object [])⟩
  absent := .printed [.string "Server is not running (no daemon file)."]
  answered := fun status _ =>
    if isSuccess status then .printed [.string "Server stopping..."]
    else .printed [.string "Server is not running or failed to stop.",
      .string ("Request failed with status code " ++ toString status)]

end Question

/-- Decodes a payload. An argument that was read as another scalar is none. -/
def decode (table : Bool) : Json → Outcome
  | .string payload =>
      match Payload.decode payload with
      | .ok spans => .shown table (.array (spans.map Span.toJson))
      | .error fault => .failed fault.message
  | value =>
      .failed ("The first argument must be of type string or an instance of Buffer, "
        ++ "ArrayBuffer, or Array or an Array-like Object. Received type "
        ++ kindWord value ++ " (" ++ literal value ++ ")")

namespace Command

/-- The names that need no value: those of all commands and of this one. -/
def switches (clock : Nat) (command : Command) : List String :=
  let options := commonOptions ++ command.options clock
  (options.filter fun option => !option.takesValue).flatMap CommandOption.names

/-- The values of options that are not given. -/
def standards (clock : Nat) (command : Command) : List (String × Json) :=
  (command.options clock).flatMap fun option =>
    match option.standard with
    | some value => option.names.map (·, value)
    | none => []

/-- Reads a command line the way a command understands it. -/
def parse (clock : Nat) (texts : List String) (command : Command)
    : Except PartFault Arguments :=
  Arguments.parse (command.switches clock) commonAliases (command.standards clock) texts

/-- The last command whose name stands first in the command line as that command understands it,
with its other arguments. Every command has to be able to read the command line.
-/
def choose? (clock : Nat) (texts : List String)
    : Except PartFault (Option (Command × Arguments)) :=
  all.foldlM (fun chosen command => do
    let arguments ← command.parse clock texts
    match arguments.positions with
    | .string word :: rest =>
        if word = command.name then
          return some (command, { arguments with positions := rest })
        else return chosen
    | _ => return chosen) none

/-- The first reason to refuse a command: an option that it does not have, one without its value,
or a missing argument.
-/
def refusal? (clock : Nat) (command : Command) (arguments : Arguments) : Option Refusal :=
  let options := commonOptions ++ command.options clock
  let isKnown (name : String) : Bool := options.any fun option => option.names.contains name
  let lacksValue (option : CommandOption) : Bool :=
    option.takesValue && option.names.any fun name =>
      match arguments.option? name with
      | some (.bool _) => true
      | _ => false
  match arguments.options.find? fun option => !isKnown option.1 with
  | some (name, _) => some (.unknownOption name)
  | none =>
      match options.find? lacksValue with
      | some option => some (.missingValue option.written)
      | none =>
          if arguments.positions.isEmpty && command.argument?.isSome then
            some (.missingArgument command.written)
          else none

/-- What a command that is written well comes to. -/
def plan (clock : Nat) (directory : String) (command : Command) (arguments : Arguments) : Plan :=
  let table := arguments.isOn "table"
  let first := (arguments.positions.head?).getD .null
  let path := Files.resolve directory (plainText first)
  match command with
  | tokens => .asking (.tokens table path)
  | highlight =>
      let version := (arguments.option? "docVersion").getD (.int clock)
      .asking (.highlight table ((arguments.option? "uri").getD (.string path))
        (numberOf? version) path)
  | close => .asking (.close first)
  | scopes => .asking (.scopes table)
  | decode => .finished (Console.decode table first)
  | stop => .asking .stop

end Command

/-- What is printed where the explanation or the version is asked for. -/
def explanation (arguments : Arguments) (help : String) : List Json :=
  (if arguments.isOn "help" then [Json.string help] else [])
    ++ (if arguments.isOn "version" then [Json.string programVersion] else [])

/-- What a command line without a command comes to. -/
def planWithoutCommand (texts : List String) : Plan :=
  let switches := commonOptions.flatMap CommandOption.names
  match Arguments.parse switches commonAliases [] texts with
  | .error fault => .finished (.refused (.badPart fault))
  | .ok arguments => .finished (.printed (explanation arguments Help.program))

/-- What a command line comes to, at a time and in a directory. Without a command there is at most
something to explain.
-/
def plan (clock : Nat) (directory : String) (texts : List String) : Plan :=
  match Command.choose? clock texts with
  | .error fault => .finished (.refused (.badPart fault))
  | .ok none => planWithoutCommand texts
  | .ok (some (command, arguments)) =>
      if arguments.isOn "help" then
        .finished (.printed (explanation arguments (Help.command clock command)))
      else
        match command.refusal? clock arguments with
        | some refusal => .finished (.refused refusal)
        | none => command.plan clock directory arguments

end Highlighter.Console
