import Highlighter.Text.Utf8

/-! Text files below one directory. A path is read relative to it, with `.` and `..` and needless
slashes taken out first, so it may also lead to the directory itself, to one in it or out of it.
Directories come into being with the files in them and stay when those are taken away.
-/

namespace Highlighter

/-- Text files by the names that lead to them from the directory, whose own path is `root`. -/
structure Files where
  root : String
  entries : List (List String × String)
  /-- The names that lead to the other directories. -/
  directories : List (List String)
deriving Repr

/-- A file cannot be read. -/
inductive ReadFault where
  | missing
  | directory
  /-- The full path goes on below a file. -/
  | belowFile (path : String)
  /-- A name in the full path is too long. -/
  | longName (path : String)
  /-- The full path holds the character that ends texts. -/
  | nullByte (path : String)
deriving DecidableEq, Repr

/-- Where a path leads. -/
inductive Destination where
  | inside (names : List String)
  /-- So many directories up, and from there along names. -/
  | outside (up : Nat) (names : List String)
  /-- From the top of the file system. -/
  | absolute (names : List String)
deriving DecidableEq, Repr

namespace Files

/-- A directory without files. -/
def empty (root : String) : Files := ⟨root, [], []⟩

/-- Takes one name of a path: the directories that are left upwards, and the names from there in
reverse.
-/
def enter (standing : Nat × List String) (name : String) : Nat × List String :=
  if name = "" || name = "." then standing
  else if name = ".." then
    match standing.2 with
    | [] => (standing.1 + 1, [])
    | _ :: names => (standing.1, names)
  else (standing.1, name :: standing.2)

/-- Where a path leads. -/
def destination (path : String) : Destination :=
  let (up, reversed) := (path.splitOn "/").foldl enter (0, [])
  let names := reversed.reverse
  if path.startsWith "/" then .absolute names
  else if up = 0 then .inside names
  else .outside up names

/-- The full path of one that is relative to a directory. -/
def resolve (directory path : String) : String :=
  let full := if path.startsWith "/" then path else directory ++ "/" ++ path
  "/" ++ String.intercalate "/" ((full.splitOn "/").foldl enter (0, [])).2.reverse

/-- The text of the file that names lead to. -/
def textAt? (files : Files) (names : List String) : Option String :=
  (files.entries.find? fun entry => entry.1 = names).map (·.2)

/-- Names lead to a directory. -/
def isDirectory (files : Files) (names : List String) : Bool :=
  names.isEmpty || files.directories.contains names

/-- The full path of names. -/
def fullPath (files : Files) (names : List String) : String :=
  String.intercalate "/" (files.root :: names)

/-- The most bytes that a name can have. -/
def nameLimit : Nat := 255

/-- Goes down from a directory along names, one after the other, and reads the file at the end. -/
def descend (files : Files) (above : List String) : List String → Except ReadFault String
  | [] => .error .directory
  | name :: rest =>
      let here := above ++ [name]
      if nameLimit < (Text.utf8 name).length then
        .error (.longName (files.fullPath (here ++ rest)))
      else
        match files.textAt? here with
        | some text =>
            if rest.isEmpty then .ok text
            else .error (.belowFile (files.fullPath (here ++ rest)))
        | none =>
            if files.isDirectory here then files.descend here rest else .error .missing

/-- Reads the file at a path. Above the directory there are only directories. -/
def read (files : Files) (path : String) : Except ReadFault String :=
  let isBroken := path.contains '\x00'
  match destination path with
  | .inside names =>
      if isBroken then .error (.nullByte (files.fullPath names)) else files.descend [] names
  | .outside _ names | .absolute names =>
      if isBroken then .error (.nullByte (String.intercalate "/" ("" :: names)))
      else .error (if names.isEmpty then .directory else .missing)

/-- The names of a path inside the directory. -/
def namesOf (path : String) : List String :=
  match destination path with
  | .inside names | .outside _ names | .absolute names => names

/-- Takes a file away. -/
def remove (files : Files) (path : String) : Files :=
  { files with entries := files.entries.filter fun entry => entry.1 ≠ namesOf path }

/-- The directories that lead to names, the highest one first. -/
def leadingTo (names : List String) : List (List String) :=
  (List.range (names.length - 1)).map fun index => names.take (index + 1)

/-- Writes a file, in the place of what it held before. -/
def write (files : Files) (path text : String) : Files :=
  let names := namesOf path
  let added := (leadingTo names).filter fun directory => !files.directories.contains directory
  { files with
    entries := (names, text) :: (files.remove path).entries
    directories := files.directories ++ added }

end Files

end Highlighter
