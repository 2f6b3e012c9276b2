import Highlighter.Document.Listing

/-! What an answer tells a client that reads the payloads of its lines, next to the listing of the
same tree. A line number and a span stand for a listed token, but for its length beyond 65535.
-/

namespace Highlighter

namespace EncodedLine

/-- The spans of a line, each with the line that it is on. -/
def spans (line : EncodedLine) : Except Payload.Malformed (List (Int × Span)) := do
  let spans ← Payload.decode line.payload
  return spans.map fun span => (line.line, span)

/-- The spans of lines, one line after the other; the first payload that is none counts. -/
def allSpans : List EncodedLine → Except Payload.Malformed (List (Int × Span))
  | [] => .ok []
  | line :: rest => do
      let first ← line.spans
      let others ← allSpans rest
      return first ++ others

end EncodedLine

/-- A listed token is what a span on a line tells, its length modulo 65536. -/
structure TokenEntry.Agrees (entry : TokenEntry) (told : Int × Span) : Prop where
  line : entry.line = told.1
  character : entry.character = told.2.character
  kind : entry.kind = some told.2.kind
  length : entry.length % 65536 = told.2.length

end Highlighter
