/-!
The shortest decimal that reads back as a given binary64 value.

A finite value is `m * 2^q`. The reals that round to it under round-to-nearest-even form an
interval reaching halfway to each neighbouring value, with both ends included exactly when `m` is
even; below a power of two the neighbour beneath is half as far away as the one above.
`Binary.readsBack` tests a decimal against that interval with exact natural arithmetic.

`Binary.shortest` tries grids `10^(k - n)` for `n = 1, 2, …` digits, where `10^k` is the least
power of ten above the value. On each grid only the value's two neighbours need testing: if any
point of the grid lies in the interval, one of them does. The first grid with a hit gives the
digits; of two hits the nearer is taken, and an exact tie goes to the even one.
-/

namespace Remap.Decimal

/-- A finite non-negative binary64 value, `m * 2^q`. -/
structure Binary where
  m : Nat
  q : Int
  /-- the gap to the value below is half the gap to the value above -/
  narrowBelow : Bool

/-- The value of the bits of a finite float, sign left aside. -/
def Binary.ofBits (b : UInt64) : Binary :=
  let e := ((b >>> 52) &&& 0x7FF).toNat
  let f := (b &&& 0xFFFFFFFFFFFFF).toNat
  if e == 0 then ⟨f, -1074, false⟩
  else ⟨Nat.pow 2 52 + f, (e : Int) - 1075, f == 0 && e > 1⟩

/-- A decimal `digits * 10^exp`. -/
structure Dec where
  digits : Nat
  exp : Int
  deriving DecidableEq

/-- Compares `a * 10^i` with `n * 2^j`, exactly. -/
def cmpScaled (a : Nat) (i : Int) (n : Nat) (j : Int) : Ordering :=
  compare (a * Nat.pow 10 i.toNat * Nat.pow 2 (-j).toNat)
    (n * Nat.pow 2 j.toNat * Nat.pow 10 (-i).toNat)

/-- Whether a decimal lies among the reals that round to the value. -/
def Binary.readsBack (x : Binary) (d : Dec) : Bool :=
  let lo := if x.narrowBelow then 4 * x.m - 1 else 4 * x.m - 2
  let hi := 4 * x.m + 2
  let incl := x.m % 2 == 0
  let cl := cmpScaled d.digits d.exp lo (x.q - 2)
  let ch := cmpScaled d.digits d.exp hi (x.q - 2)
  (cl == .gt || (incl && cl == .eq)) && (ch == .lt || (incl && ch == .eq))

/-- Whether the value is below `10^k`. -/
def Binary.below (x : Binary) (k : Int) : Bool :=
  cmpScaled 1 k x.m x.q == .gt

/-- Moves an estimate of the scale by single steps until the value is below `10^k` and not
below `10^(k-1)`; the estimate from the binary logarithm is off by at most one. -/
def Binary.fixScale (x : Binary) : Nat → Int → Int
  | 0, k => k
  | fuel + 1, k =>
    if !x.below k then x.fixScale fuel (k + 1)
    else if x.below (k - 1) then x.fixScale fuel (k - 1)
    else k

/-- The least `k` with the value below `10^k`, for a positive value. -/
def Binary.scale (x : Binary) : Int :=
  let bits : Int := (Nat.log2 x.m : Int) + x.q + 1
  x.fixScale 8 (bits * 30103 / 100000)

/-- The floor of the value divided by `10^t`. -/
def Binary.floorOn (x : Binary) (t : Int) : Nat :=
  (x.m * Nat.pow 2 x.q.toNat * Nat.pow 10 (-t).toNat)
    / (Nat.pow 2 (-x.q).toNat * Nat.pow 10 t.toNat)

/-- Compares the midpoint of the neighbours `d` and `d + 1` on the grid `10^t` with the value:
below it, `d + 1` is the nearer one; above it, `d`. -/
def Binary.midpointCmp (x : Binary) (d : Nat) (t : Int) : Ordering :=
  cmpScaled (2 * d + 1) t x.m (x.q + 1)

/-- The hit on the grid `10^t`, if one of the two neighbours reads back. -/
def Binary.hitOn (x : Binary) (t : Int) : Option Dec :=
  let d := x.floorOn t
  let lower : Dec := ⟨d, t⟩
  let upper : Dec := ⟨d + 1, t⟩
  match x.readsBack lower, x.readsBack upper with
  | true, true =>
    match x.midpointCmp d t with
    | .lt => some upper
    | .gt => some lower
    | .eq => some (if d % 2 == 0 then lower else upper)
  | true, false => some lower
  | false, true => some upper
  | false, false => none

/-- Drops trailing zeros of the digits into the exponent. -/
def Dec.trim : Nat → Dec → Dec
  | 0, d => d
  | fuel + 1, d =>
    if d.digits != 0 && d.digits % 10 == 0 then Dec.trim fuel ⟨d.digits / 10, d.exp + 1⟩ else d

/-- The exact decimal value `m * 2^q`, used only if no grid of up to seventeen digits hits,
which does not happen for binary64. -/
def Binary.exact (x : Binary) : Dec :=
  if x.q ≥ 0 then ⟨x.m * Nat.pow 2 x.q.toNat, 0⟩ else ⟨x.m * Nat.pow 5 (-x.q).toNat, x.q⟩

/-- The shortest decimal that reads back as a positive value, the nearest of those. -/
def Binary.shortest (x : Binary) : Dec :=
  let k := x.scale
  let hit := (List.range 17).findSome? fun (i : Nat) => x.hitOn (k - ((i : Int) + 1))
  Dec.trim 20 (hit.getD x.exact)

example : (Binary.ofBits 0x3FF0000000000000).shortest = ⟨1, 0⟩ := by decide +kernel
example : (Binary.ofBits 0x3FB999999999999A).shortest = ⟨1, -1⟩ := by decide +kernel
example : (Binary.ofBits 1).shortest = ⟨5, -324⟩ := by decide +kernel
example : (Binary.ofBits 0x44B52D02C7E14AF6).shortest = ⟨1, 23⟩ := by decide +kernel

end Remap.Decimal
