import Highlighter.Console.Arguments

/-! The commands, their arguments and options, and the text that explains them. -/

namespace Highlighter.Console

/-- The name of the program. -/
def programName : String := "semhl"

/-- The name of the program with its version. -/
def programVersion : String := programName ++ "/0.1.0"

/-- An option of a command. -/
structure CommandOption where
  /-- How it is written, with the name of its value in angle brackets. -/
  written : String
  names : List String
  summary : String
  takesValue : Bool
  /-- The value that it has if it is not given. -/
  standard : Option Json

/-- The options that every command has. -/
def commonOptions : List CommandOption :=
  [⟨"-h, --help", ["h", "help"], "Display this message", false, none⟩,
    ⟨"-v, --version", ["v", "version"], "Display version number", false, none⟩]

/-- The pairs of names of the options that every command has. -/
def commonAliases : List (String × String) := [("h", "help"), ("v", "version")]

/-- The option for tables. -/
def tableOption : CommandOption :=
  ⟨"--table", ["table"], "Output in table format", false, none⟩

/-- The option for the name of a document. -/
def uriOption : CommandOption :=
  ⟨"--uri <uri>", ["uri"], "Document identity (defaults to the tree path)", true, none⟩

/-- The option for the version of a document, which is the time if it is not given. -/
def versionOption (clock : Nat) : CommandOption :=
  ⟨"--doc-version <version>", ["docVersion"], "Document version, must grow on every call", true,
    some (.int clock)⟩

/-- What can be asked for on the command line. -/
inductive Command where
  | tokens
  | highlight
  | close
  | scopes
  | decode
  | stop
deriving DecidableEq, Repr

namespace Command

/-- The commands in the order in which they are explained. -/
def all : List Command := [.tokens, .highlight, .close, .scopes, .decode, .stop]

/-- The word that chooses a command. -/
def name : Command → String
  | tokens => "tokens"
  | highlight => "highlight"
  | close => "close"
  | scopes => "scopes"
  | decode => "decode"
  | stop => "stop"

/-- The name of the argument that a command requires. -/
def argument? : Command → Option String
  | tokens | highlight => some "tree"
  | close => some "uri"
  | decode => some "payload"
  | scopes | stop => none

/-- What a command does. -/
def summary : Command → String
  | tokens => "List the highlighting tokens of a resolved tree"
  | highlight => "Highlight a document version and print the changed lines"
  | close => "Forget the highlighting snapshot of a document"
  | scopes => "Print the kind to TextMate scope table"
  | decode => "Decode the base64 tokens of one highlighted line"
  | stop => "Stop the background server"

/-- The options of a command at a time. -/
def options (clock : Nat) : Command → List CommandOption
  | tokens | scopes | decode => [tableOption]
  | highlight => [uriOption, versionOption clock, tableOption]
  | close | stop => []

/-- How a command is written. -/
def written (command : Command) : String :=
  match command.argument? with
  | some argument => command.name ++ " <" ++ argument ++ ">"
  | none => command.name

end Command

namespace Help

/-- Texts filled up with blanks to the length of the longest, each with what stands beside it. -/
def columns (rows : List (String × String)) : List String :=
  let width := rows.foldl (fun width row => max width row.1.length) 0
  rows.map fun row =>
    "  " ++ row.1 ++ String.ofList (List.replicate (width - row.1.length + 2) ' ') ++ row.2

/-- A section with its title. -/
def titled (title : String) (lines : List String) : String :=
  title ++ ":\n" ++ String.intercalate "\n" lines

/-- What is said of an option. -/
def optionSummary (option : CommandOption) : String :=
  let standard := match option.standard with
    | some value => "(default: " ++ plainText value ++ ")"
    | none => ""
  option.summary ++ " " ++ standard

/-- The section about how a command line looks. -/
def usage (written : String) : String :=
  titled "Usage" ["  $ " ++ programName ++ " " ++ written]

/-- The section about options. -/
def options (options : List CommandOption) : String :=
  titled "Options" (columns (options.map fun option => (option.written, optionSummary option)))

/-- The sections about all commands. -/
def commands : List String :=
  [titled "Commands" (columns (Command.all.map fun command => (command.written, command.summary))),
    titled "For more info, run any command with the \x60--help\x60 flag"
      (Command.all.map fun command => "  $ " ++ programName ++ " " ++ command.name ++ " --help")]

/-- The explanation of the program. -/
def program : String :=
  String.intercalate "\n\n"
    ([programVersion, usage "<command> [options]"] ++ commands ++ [options commonOptions])

/-- The explanation of a command. -/
def command (clock : Nat) (command : Command) : String :=
  let shared := commonOptions.filter fun option => !option.names.contains "version"
  String.intercalate "\n\n"
    [programVersion, usage command.written, options (command.options clock ++ shared)]

end Help

end Highlighter.Console
