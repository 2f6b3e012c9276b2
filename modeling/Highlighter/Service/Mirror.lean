import Highlighter.Line.Sheet
import Highlighter.Service

/-! What clients know of a document. A client keeps a sheet with the payloads of its lines, amends
it by the lines of every answer that it learns of, and throws it away when the document is closed.
Answers are learnt as they are published, or as the results of calls.
-/

namespace Highlighter

/-- How a client learns of answers. -/
inductive Channel where
  | published
  | returned
deriving DecidableEq, Repr

/-- The sheet of a document after an effect. -/
def Effect.amend (channel : Channel) (uri : String) (sheet : Sheet String) (effect : Effect)
    : Sheet String :=
  if effect.uri = uri then
    match channel, effect with
    | .published, .handed answer _ => sheet.patch (answer.lines.map EncodedLine.record)
    | .returned, .settled _ _ (.ok (.highlighted answer)) =>
        sheet.patch (answer.lines.map EncodedLine.record)
    | _, .settled _ _ (.ok (.closed _)) => ∅
    | _, _ => sheet
  else sheet

/-- The sheet of a document after effects, of a client that knew nothing before them. -/
def Effect.sheet (channel : Channel) (uri : String) (effects : List Effect) : Sheet String :=
  effects.foldl (amend channel uri) ∅

/-- A call ends without its answer, whose lines cannot be encoded or published. -/
def Effect.losesAnswer : Effect → Bool
  | .settled _ _ (.error (.overflow _)) | .settled _ _ (.error (.publication _)) => true
  | _ => false

/-- A sheet shows a document: it is empty if the document is not open, and otherwise has the
payloads of the lines of its tokens.
-/
def Sheet.Shows (sheet : Sheet String) : Option Snapshot → Prop
  | none => sheet = ∅
  | some snapshot =>
      ∃ encoded,
        EncodedLine.ofLines (Line.group snapshot.tokens) = .ok encoded
        ∧ sheet = EncodedLine.sheet encoded

end Highlighter
