import Highlighter.Number.Digits
import Highlighter.Text.Hex
import Highlighter.Text.Utf8

/-! Percent encoding: a character that may not stand for itself is written as its UTF-8 bytes, each
of them as a percent sign and two hexadecimal digits.
-/

namespace Highlighter.Http.Percent

/-- A text as it is written where only some characters stand for themselves. -/
def encode (stands : Char → Bool) (text : String) : String :=
  let letters := text.toList.flatMap fun c =>
    if stands c then [c]
    else (Text.utf8 (String.singleton c)).flatMap fun byte =>
      '%' :: (Text.hexByte byte).map Char.toUpper
  String.ofList letters

/-- The bytes of percent-encoded text; none if an escape is cut short. -/
def bytes? : List Char → Option (List UInt8)
  | [] => some []
  | '%' :: high :: low :: rest => do
      let high ← Digits.hexValue? high
      let low ← Digits.hexValue? low
      return UInt8.ofNat (16 * high + low) :: (← bytes? rest)
  | '%' :: _ => none
  | c :: rest => do return Text.utf8 (String.singleton c) ++ (← bytes? rest)

/-- The text that was encoded, if it was encoded correctly. -/
def decode? (text : String) : Option String :=
  (bytes? text.toList).bind Text.ofUtf8?

end Highlighter.Http.Percent
