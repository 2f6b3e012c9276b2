import Highlighter.Http.Percent

/-! Addresses of requests in their one form. A complete address has a scheme and a host, of which
nothing is kept; slashes may be written the other way, dot segments are resolved, and characters
that may not stand for themselves are percent-encoded. The path up to a semicolon chooses the
route, and what stands behind it gives the route its arguments.
-/

namespace Highlighter.Http

/-- The address of a request. -/
structure Address where
  path : String
  query : String
deriving DecidableEq, Repr

namespace Address

/-- The characters of an address that count. Blanks and controls at its ends do not, nor do line
breaks and tabs, nor the fragment, which clients keep for themselves.
-/
def meaningful (url : String) : List Char :=
  let isBlank (c : Char) : Bool := c.toNat ≤ 0x20
  let text := ((url.toList.dropWhile isBlank).reverse.dropWhile isBlank).reverse
  (text.takeWhile (· ≠ '#')).filter fun c => !(['\t', '\n', '\r'].contains c)

/-- A slash, written either way. -/
def isSlash (c : Char) : Bool := c = '/' || c = '\\'

/-- A character of a scheme. -/
def isSchemeChar (c : Char) : Bool := c.isAlphanum || "+-.".contains c

/-- The scheme of an address, if it has one, and what stands behind it. -/
def splitScheme (text : List Char) : Option String × List Char :=
  let scheme := text.takeWhile isSchemeChar
  match text.dropWhile isSchemeChar with
  | ':' :: rest =>
      if (scheme.head?).any Char.isAlpha then ((String.ofList scheme).toLower, rest)
      else (none, text)
  | _ => (none, text)

/-- What stands behind the host, which all slashes in front of it belong to. -/
def behindHost (text : List Char) : List Char :=
  (text.dropWhile isSlash).dropWhile fun c => !isSlash c

/-- What stands behind the host if two slashes say that there is one. -/
def behindMarkedHost (text : List Char) : List Char :=
  if (text.take 2).length = 2 && (text.take 2).all isSlash then behindHost text else text

/-- The schemes that always have a host. -/
def hostSchemes : List String := ["https", "ws", "wss", "ftp"]

/-- A character that stands for itself in a path. -/
def standsInPath (c : Char) : Bool :=
  0x20 < c.toNat && c.toNat < 0x7F && !"\"#<>?\x60\x7b\x7d".contains c

/-- A character that stands for itself in a query. -/
def standsInQuery (c : Char) : Bool :=
  0x20 < c.toNat && c.toNat < 0x7F && !"\"#<>'".contains c

/-- A character that stands for itself in a path without a slash at its start. -/
def standsInOpaquePath (c : Char) : Bool := 0x20 ≤ c.toNat && c.toNat < 0x7F

/-- A segment that stays where it is. -/
def isDot (segment : String) : Bool := [".", "%2e"].contains segment.toLower

/-- A segment that goes one up. -/
def isDoubleDot (segment : String) : Bool :=
  ["..", ".%2e", "%2e.", "%2e%2e"].contains segment.toLower

/-- Follows segments from the ones above, which stand in reverse. A dot segment at the end leaves
an empty one, so that the path ends in a slash.
-/
def follow (above : List String) : List String → List String
  | [] => above.reverse
  | segment :: rest =>
      if isDoubleDot segment then
        follow (if rest.isEmpty then "" :: above.tail else above.tail) rest
      else if isDot segment then follow (if rest.isEmpty then "" :: above else above) rest
      else follow (segment :: above) rest

/-- A path without dot segments. -/
def resolve (text : List Char) : String :=
  let slashes := text.map fun c => if c = '\\' then '/' else c
  let inner := if (text.head?).any isSlash then slashes.drop 1 else slashes
  let segments := follow [] ((String.ofList inner).splitOn "/")
  "/" ++ String.intercalate "/" (segments.map (Percent.encode standsInPath))

/-- The path of an address. -/
def pathOf (text : List Char) : String :=
  match splitScheme text with
  | (none, rest) | (some "http", rest) => resolve (behindMarkedHost rest)
  | (some scheme, rest) =>
      if hostSchemes.contains scheme then resolve (behindHost rest)
      else if scheme = "file" || (rest.head?).any (· = '/') then resolve (behindMarkedHost rest)
      else Percent.encode standsInOpaquePath (String.ofList rest)

/-- The address that a text gives. Two slashes at its start belong to the path. -/
def ofText (url : String) : Address :=
  let text := meaningful url
  let front := text.takeWhile (· ≠ '?')
  let query := String.ofList ((text.dropWhile (· ≠ '?')).drop 1)
  let path := if url.startsWith "//" then resolve front else pathOf front
  ⟨path, Percent.encode standsInQuery query⟩

/-- How an address is written; a query without characters leaves no mark. -/
def text (address : Address) : String :=
  if address.query = "" then address.path else address.path ++ "?" ++ address.query

/-- A character that ends the part of an address that chooses the route. -/
def endsRoute (c : Char) : Bool := c = '?' || c = ';'

/-- What chooses the route, if it is encoded correctly. -/
def route? (address : Address) : Option String :=
  Percent.decode? (String.ofList (address.text.toList.takeWhile fun c => !endsRoute c))

/-- What gives the route its arguments, empty if nothing does. -/
def arguments (address : Address) : String :=
  String.ofList ((address.text.toList.dropWhile fun c => !endsRoute c).drop 1)

end Address

end Highlighter.Http
