import Highlighter.ByUri
import Highlighter.Line.Change
import Highlighter.Payload
import Highlighter.Tree.Highlights
import Highlighter.Tree.Load

/-! Open documents. A document that was highlighted keeps the version and the canonical tokens that
it had then, against which its next version is compared; only the lines that changed are sent.
-/

namespace Highlighter

/-- What a document looked like when it was last highlighted. -/
structure Snapshot where
  version : Number
  tokens : List Token
deriving DecidableEq, Repr

/-- The tokens that a new version is compared with; a document that is not open has none. -/
def Snapshot.baseline : Option Snapshot → List Token
  | some snapshot => snapshot.tokens
  | none => []

/-- The open documents by uri. -/
abbrev Store := ByUri Snapshot

/-- A new version of a document, with the path of its resolved tree. -/
structure HighlightRequest where
  uri : String
  version : Number
  path : String
deriving DecidableEq, Repr

/-- The lines that changed with a version, and how many of its tokens had no range. -/
structure Highlighted where
  uri : String
  version : Number
  lines : List EncodedLine
  diagnostics : Nat
deriving DecidableEq, Repr

/-- Why a request fails. -/
inductive Failure where
  | stale (uri : String) (version current : Number)
  | notOpen (uri : String)
  | load (fault : LoadFault)
  | endless (fault : Endless)
  | unsorted (fault : Unsorted)
  | overflow (fault : Overflow)
  | publication (message : String)
deriving DecidableEq, Repr

namespace Failure

/-- How a failure is worded. -/
def message : Failure → String
  | stale uri version current =>
      "Stale version " ++ version.text ++ " for " ++ uri ++ ", current version is "
        ++ current.text
  | notOpen uri => "Document not open: " ++ uri
  | .load fault => fault.message
  | .endless fault => fault.message
  | .unsorted fault => fault.message
  | .overflow fault => fault.message
  | publication message => message

end Failure

namespace HighlightRequest

/-- A document that is open accepts only newer versions. -/
def checkVersion (request : HighlightRequest) (current : Option Snapshot)
    : Except Failure Unit :=
  match current with
  | none => .ok ()
  | some snapshot =>
      if request.version.atMost snapshot.version then
        .error (.stale request.uri request.version snapshot.version)
      else .ok ()

end HighlightRequest

/-- What highlighting a tree leads to: its diagnostics, the snapshot that is kept, and the answer.
Nothing is kept if the tree cannot be walked to its end. The snapshot is kept even if the changed
lines cannot be encoded.
-/
structure Commit where
  diagnostics : List FileLocation
  snapshot : Option Snapshot
  answer : Except Failure Highlighted
deriving Repr

namespace HighlightRequest

/-- Compares what is found in a tree with the snapshot that its document had. -/
def commitFound (request : HighlightRequest) (base : Option Snapshot) (found : Highlights)
    : Commit :=
  match Line.changes found.tokens (Snapshot.baseline base) with
  | .error fault => ⟨found.diagnostics, none, .error (.unsorted fault)⟩
  | .ok lines =>
      let answer := match EncodedLine.ofLines lines with
        | .error fault => .error (.overflow fault)
        | .ok encoded =>
            .ok ⟨request.uri, request.version, encoded, found.diagnostics.length⟩
      ⟨found.diagnostics, some ⟨request.version, found.tokens⟩, answer⟩

/-- Highlights a tree against the snapshot that its document had. -/
def commit (request : HighlightRequest) (base : Option Snapshot) (tree : Tree) : Commit :=
  match tree.highlights with
  | .error fault => ⟨[], none, .error (.endless fault)⟩
  | .ok found => request.commitFound base found

/-- A tree that is highlighted is compared, by definition. -/
theorem commit_of_highlights {tree : Tree} {found : Highlights}
    (highlighted : tree.highlights = .ok found) (request : HighlightRequest)
    (base : Option Snapshot)
    : request.commit base tree = request.commitFound base found := by
  rw [commit, highlighted]

theorem commit_of_endless {tree : Tree} {fault : Endless}
    (endless : tree.highlights = .error fault) (request : HighlightRequest)
    (base : Option Snapshot)
    : request.commit base tree = ⟨[], none, .error (.endless fault)⟩ := by
  rw [commit, endless]

end HighlightRequest

end Highlighter
