import Highlighter.Text.Hex

/-! Text in quotes, as literals show it: controls and backslashes are escaped, and the quotes are
single ones unless those occur in the text and others do not.
-/

namespace Highlighter.Text.Quoted

/-- A character inside quotes, which are escaped where they are of the same kind. -/
def escape (quote c : Char) : String :=
  if c = '\\' then "\\\\"
  else if c = quote && quote = '\'' then "\\'"
  else if c = '\n' then "\\n"
  else if c = '\r' then "\\r"
  else if c = '\t' then "\\t"
  else if c.toNat = 8 then "\\b"
  else if c.toNat = 12 then "\\f"
  else if c.toNat < 0x20 || (0x7F ≤ c.toNat && c.toNat < 0xA0) then
    "\\x" ++ (Text.hex [UInt8.ofNat c.toNat]).toUpper
  else String.singleton c

/-- The quotes of a text: single ones, or others that do not occur in it if those do. -/
def quoteFor (text : String) : Char :=
  let holds (part : String) : Bool := (text.splitOn part).length ≠ 1
  if !holds "'" then '\''
  else if !holds "\"" then '"'
  else if !holds "\x60" && !holds "$\x7b" then '\x60'
  else '\''

/-- A text in quotes, with what stands behind it inside them. -/
def quoteBefore (text rest : String) : String :=
  let quote := quoteFor text
  text.foldl (fun literal c => literal ++ escape quote c) (String.singleton quote)
    ++ rest ++ String.singleton quote

/-- A text in quotes. -/
def quote (text : String) : String := quoteBefore text ""

end Highlighter.Text.Quoted
