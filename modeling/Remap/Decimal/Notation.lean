import Remap.Decimal.Shortest
/-!
Writing a float as text. The digits are the shortest that read back (`Binary.shortest`); a
`FloatFormat` decides the rest: the range of decimal exponents written positionally, the mark and
width of an exponent, and the words for the values that are not numbers.

Positional text always shows a point: an integral value ends in `.0`. Exponent text shows a
point only when there is more than one digit. Zero is `0.0` or `-0.0`.
-/

namespace Remap.Decimal

/-- The decisions of one float notation beyond its digits. -/
structure FloatFormat where
  /-- the least decimal exponent of the leading digit written positionally -/
  minPositional : Int
  /-- the greatest decimal exponent of the leading digit written positionally -/
  maxPositional : Int
  /-- the least number of exponent digits, padded with zeros -/
  expDigits : Nat
  /-- the text of a value that is not a number -/
  nan : String
  /-- the text of positive infinity; negative infinity has a minus sign before it -/
  infinity : String

/-- The decimal digits of a natural number. -/
def digitText (n : Nat) : String := String.ofList (Nat.toDigits 10 n)

/-- A run of `n` zeros. -/
def zeros (n : Nat) : String := String.ofList (List.replicate n '0')

/-- The text of a positive decimal, laid out by the format. -/
def FloatFormat.layout (fmt : FloatFormat) (d : Dec) : String :=
  let s := digitText d.digits
  let lead : Int := d.exp + s.length - 1
  if fmt.minPositional ≤ lead ∧ lead ≤ fmt.maxPositional then
    if 0 ≤ lead then
      let whole := lead.toNat + 1
      if s.length ≤ whole then s ++ zeros (whole - s.length) ++ ".0"
      else String.ofList (s.toList.take whole) ++ "." ++ String.ofList (s.toList.drop whole)
    else "0." ++ zeros ((-lead).toNat - 1) ++ s
  else
    let mantissa := match s.toList with
      | [] => "0"
      | [c] => String.singleton c
      | c :: cs => String.singleton c ++ "." ++ String.ofList cs
    let expSign := if lead < 0 then "-" else "+"
    let e := digitText lead.natAbs
    mantissa ++ "e" ++ expSign ++ zeros (fmt.expDigits - e.length) ++ e

/-- The text of a float. -/
def FloatFormat.write (fmt : FloatFormat) (x : Float) : String :=
  let b := x.toBits
  let sign := if b >>> 63 == 1 then "-" else ""
  let e := (b >>> 52) &&& 0x7FF
  let f := b &&& 0xFFFFFFFFFFFFF
  if e == 0x7FF then
    if f != 0 then fmt.nan else sign ++ fmt.infinity
  else if e == 0 && f == 0 then sign ++ "0.0"
  else sign ++ fmt.layout (Binary.ofBits b).shortest

end Remap.Decimal
