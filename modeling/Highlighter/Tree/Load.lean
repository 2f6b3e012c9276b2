import Highlighter.Files
import Highlighter.Json.Reader
import Highlighter.Text.Quoted
import Highlighter.Tree.Reader

/-! Loading a resolved tree from a file, and everything that can go wrong with it.
-/

namespace Highlighter

/-- Why a tree cannot be loaded. -/
inductive LoadFault where
  | notFound (path : String)
  | directory
  | belowFile (fullPath : String)
  | longName (fullPath : String)
  | nullByte (fullPath : String)
  | notJson (path : String)
  | misfit (path : String) (misfit : Misfit)
deriving DecidableEq, Repr

namespace LoadFault

/-- The reason that is shown for a text that is no JSON. -/
def syntaxReason : String := "<json syntax error>"

/-- How a fault is worded. -/
def message : LoadFault → String
  | notFound path => "Resolved tree not found: " ++ path
  | directory => "EISDIR: illegal operation on a directory, read"
  | belowFile fullPath => "ENOTDIR: not a directory, open '" ++ fullPath ++ "'"
  | longName fullPath => "ENAMETOOLONG: name too long, open '" ++ fullPath ++ "'"
  | nullByte fullPath =>
      "The argument 'path' must be a string, Uint8Array, or URL without null bytes. Received "
        ++ Text.Quoted.quote fullPath
  | notJson path => "Invalid resolved tree " ++ path ++ ": " ++ syntaxReason
  | .misfit path fault => "Invalid resolved tree " ++ path ++ ": " ++ fault.text

/-- The fault of a file at a path that cannot be read. -/
def ofRead (path : String) : ReadFault → LoadFault
  | .missing => .notFound path
  | .directory => .directory
  | .belowFile fullPath => .belowFile fullPath
  | .longName fullPath => .longName fullPath
  | .nullByte fullPath => .nullByte fullPath

end LoadFault

namespace Tree

/-- The tree of a JSON value, which the path is to blame for. -/
def ofJson (path : String) (json : Json) : Except LoadFault Tree :=
  (read json).mapError (.misfit path)

/-- The tree of a file's text, which the path is to blame for. -/
def ofText (path text : String) : Except LoadFault Tree :=
  match Json.parse? text with
  | none => .error (.notJson path)
  | some json => ofJson path json

/-- The tree in the file at a path. -/
def load (files : Files) (path : String) : Except LoadFault Tree :=
  match files.read path with
  | .error fault => .error (.ofRead path fault)
  | .ok text => ofText path text

end Tree

end Highlighter
