import Highlighter.Document.Listing
import Highlighter.Json

/-! The JSON forms of answers. -/

namespace Highlighter

/-- The JSON form of a line with its payload. -/
def EncodedLine.toJson (line : EncodedLine) : Json :=
  .object [("line", .int line.line), ("tokens", .string line.payload)]

/-- The JSON form of the answer to a highlight. -/
def Highlighted.toJson (answer : Highlighted) : Json :=
  .object [
    ("uri", .string answer.uri),
    ("version", .number answer.version),
    ("lines", .array (answer.lines.map EncodedLine.toJson)),
    ("diagnostics", .int answer.diagnostics)]

/-- The JSON form of a listed token; without a kind it has neither its name nor its scope. -/
def TokenEntry.toJson (entry : TokenEntry) : Json :=
  let named := match entry.kind with
    | some kind => [("kind", Json.string kind.name), ("scope", Json.string kind.scope)]
    | none => []
  .object ([
    ("line", .int entry.line),
    ("character", .int entry.character),
    ("length", .int entry.length)] ++ named)

/-- The JSON form of a listing. -/
def Listing.toJson (listing : Listing) : Json :=
  .object [
    ("tokens", .array (listing.tokens.map TokenEntry.toJson)),
    ("diagnostics", .int listing.diagnostics)]

/-- The names and scopes of all kinds by ordinal, each kind with a list of one scope. -/
def Kind.tableJson : Json :=
  .object [
    ("kinds", .strings (Kind.all.map Kind.name)),
    ("scopes", .array (Kind.all.map fun kind => .strings [kind.scope]))]

/-- The JSON form of a span. -/
def Span.toJson (span : Span) : Json :=
  .object [
    ("character", .int span.character),
    ("length", .int span.length),
    ("kind", .int span.kind.ordinal)]

end Highlighter
