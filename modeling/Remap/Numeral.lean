import Remap.Text.Digit
import Remap.Text.Split
import Remap.Decimal.Reading
/-!
Numbers written in the payload of an address.

An integer (`readInt?`) may stand between blanks (`Text.isNumeralBlank`), have a sign, and use
decimal digits of any script, with single underscores between digits. It has at most 4300
digits. A decimal (`readDecimal?`) is a whole part and an optional fraction, each a run of
decimal digits of any script; it is rounded once to the nearest float.
-/

namespace Remap.Text

/-- Whether a character may surround a written integer: the six ASCII blanks (tab, line feed,
vertical tab, form feed, carriage return, space) and the Unicode whitespace characters above the
ASCII range (Unicode 14.0). The ASCII separators 0x1C to 0x1F are no blanks here. -/
def isNumeralBlank (c : Char) : Bool :=
  let n := c.toNat
  (9 ≤ n && n ≤ 13) || n == 0x20 || n == 0x85 || n == 0xA0 || n == 0x1680
    || (0x2000 ≤ n && n ≤ 0x200A) || n == 0x2028 || n == 0x2029 || n == 0x202F
    || n == 0x205F || n == 0x3000

example : isNumeralBlank ' ' = true ∧ isNumeralBlank '\u3000' = true := by decide
example : isNumeralBlank '\x1c' = false ∧ isNumeralBlank 'a' = false := by decide

end Remap.Text

namespace Remap.Numeral

open Text

/-- The most digits a written integer may have. -/
def maxDigits : Nat := 4300

/-- A character of a written integer brought to ASCII: blanks become a space and decimal digits
of any script their ASCII digit; ASCII stays; anything else cannot be part of an integer. -/
def toAscii (c : Char) : Option Char :=
  if c.toNat < 0x7F then some c
  else if isNumeralBlank c then some ' '
  else (decimalValue? c).map fun d => Char.ofNat ('0'.toNat + d)

/-- Whether a character is an ASCII digit. -/
def isAsciiDigit (c : Char) : Bool := '0' ≤ c && c ≤ '9'

/-- Whether a run of digits and underscores has single underscores between digits only: cut
at its underscores, no piece is empty. -/
def wellGrouped (body : List Char) : Bool :=
  (Text.splitOn '_' body).all fun piece => !piece.isEmpty

/-- The value of a run of ASCII digits. -/
def asciiValue (ds : List Char) : Nat :=
  ds.foldl (fun n c => n * 10 + (c.toNat - '0'.toNat)) 0

/-- The integer a text writes, if it writes one. -/
def readInt? (s : String) : Option Int := do
  let t ← s.toList.mapM toAscii
  let t := t.dropWhile isNumeralBlank
  let (neg, t) := match t with
    | '-' :: r => (true, r)
    | '+' :: r => (false, r)
    | r => (false, r)
  let body := t.takeWhile fun c => isAsciiDigit c || c == '_'
  let rest := t.dropWhile fun c => isAsciiDigit c || c == '_'
  if !(rest.all isNumeralBlank && wellGrouped body) then none
  let ds := body.filter isAsciiDigit
  if ds.length > maxDigits then none
  let n : Int := asciiValue ds
  pure (if neg then -n else n)

/-- Whether every character of a nonempty text counts as a digit (`Text.isDigitChar`). -/
def isDigitText (s : String) : Bool := !s.isEmpty && s.toList.all isDigitChar

/-- The values of a run of decimal digits of any script, if all of it is. -/
def decimalValues? (s : String) : Option (List Nat) := s.toList.mapM decimalValue?

/-- The float nearest to `whole.frac`, if both parts are runs of decimal digits and the whole
part is not empty. -/
def readDecimal? (whole frac : String) : Option Float := do
  let w ← decimalValues? whole
  let f ← decimalValues? frac
  if w.isEmpty then none
  let m := (w ++ f).foldl (fun n d => n * 10 + d) 0
  pure (Decimal.toFloat false m (-(f.length : Int)))

example : readInt? " -1_000 " = some (-1000) := by decide +kernel
example : readInt? "1__0" = none ∧ readInt? "_1" = none ∧ readInt? "1_" = none := by
  decide +kernel
example : readInt? "0x10" = none ∧ readInt? "" = none ∧ readInt? "+" = none := by decide +kernel

end Remap.Numeral
