import Highlighter.Digest.Md5
import Highlighter.Json.Reader
import Highlighter.Text.Hex
import Highlighter.Text.Utf8

/-! How a command finds the server that already runs for its directory: through a file whose name is
made from the directory's path, and which holds the server's port and process.
-/

namespace Highlighter.Daemon

/-- The name of the file about the server of a directory. -/
def fileName (root : String) : String :=
  "semhl-daemon-" ++ Text.hex (Md5.digest (Text.utf8 root)) ++ ".json"

/-- Where a server listens, and its process. -/
structure Info where
  port : Number
  pid : Number
deriving DecidableEq, Repr

namespace Info

/-- What a value says about a server: nothing unless it has both numbers. -/
def ofJson? (json : Json) : Option Info :=
  match json.get? "port", json.get? "pid" with
  | some (.number port), some (.number pid) => some ⟨port, pid⟩
  | _, _ => none

/-- What a file's text says about a server; the outer option is empty if the text is no JSON. -/
def ofText? (text : String) : Option (Option Info) :=
  (Json.parse? text).map ofJson?

end Info

end Highlighter.Daemon
