/-!
Reading a decimal as a float: the value `m * 10^e` rounded once to the nearest binary64 value,
ties to even, as `Float.ofScientific` does. Values far beyond the range of binary64 are settled
before that, so that a huge exponent costs nothing: from `10^401` on every value is infinite, and
below `10^-400` every value is zero.
-/

namespace Remap.Decimal

/-- A number of decimal digits that `m` does not exceed: `m < 2^(log2 m + 1)`, and `log10 2` is
below `0.30103`. -/
def digitBound (m : Nat) : Nat := (Nat.log2 m + 1) * 30103 / 100000 + 1

/-- A mantissa with fewer digits that rounds alike. One of more than 4000 bits keeps about a
thousand leading digits, and one more digit that is 1 when anything nonzero was cut off. No value
halfway between two neighbouring floats has more than 767 significant digits, so no such value
lies strictly between a number and its shortened form, and both round to the same float. -/
def shorten (m : Nat) (e : Int) : Nat × Int :=
  let bits := Nat.log2 m
  if bits ≤ 4000 then (m, e)
  else
    let k := (bits - 3400) * 30103 / 100000
    let p := Nat.pow 10 k
    let sticky := if m % p == 0 then 0 else 1
    ((m / p) * 10 + sticky, e + k - 1)

/-- The float nearest to `m * 10^e`, negated if `neg` holds. -/
def toFloat (neg : Bool) (m : Nat) (e : Int) : Float :=
  let (m', e') := shorten m e
  let x : Float :=
    if m == 0 then 0.0
    else if e > 400 then 1.0 / 0.0
    else if (digitBound m : Int) + e < -400 then 0.0
    else if 0 ≤ e' then Float.ofScientific m' false e'.toNat
    else Float.ofScientific m' true (-e').toNat
  if neg then -x else x

end Remap.Decimal
