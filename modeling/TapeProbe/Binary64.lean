import TapeProbe.Text.Numeral

/-!
# Floating-point numbers of 64 bits

A decimal literal stands for the nearest number with a mantissa of 53 bits; a tie goes to the even
mantissa, and what lies above the largest such number is infinite.

The text of a number is the shortest decimal that still reads back as that number, written
positionally and always with a point. Of two shortest decimals the nearer one is taken; of two
equally near ones the larger.

Everything is computed exactly in natural numbers.
-/

namespace TapeProbe

/-- A floating-point number of 64 bits. -/
inductive Binary64 where
  /-- Not a number. -/
  | nan
  /-- Infinity, of either sign. -/
  | infinite (negative : Bool)
  /-- `mantissa · 2 ^ exponent`, of either sign; zero has a sign too. -/
  | finite (negative : Bool) (mantissa : Nat) (exponent : Int)
  deriving DecidableEq, Repr

namespace Binary64

/-- The integer nearest to `num / den`; a tie goes to the even one. -/
def roundDiv (num den : Nat) : Nat :=
  let q := num / den
  let r := num % den
  if 2 * r < den ∨ (2 * r = den ∧ q % 2 = 0) then q else q + 1

/-- The least mantissa of 53 bits. -/
def leastNormal : Nat := 0x10000000000000

/-- The ratio `num / den` divided by `2 ^ q`, again as a ratio. -/
def scale (num den : Nat) (q : Int) : Nat × Nat :=
  (num * Nat.pow 2 (-q).toNat, den * Nat.pow 2 q.toNat)

/-- The exponent of the unit in the last place for the ratio `num / den`: the mantissa gets 53 bits,
or fewer where the exponent cannot go lower. -/
def unitExponent (num den : Nat) : Int :=
  let guess : Int := (num.log2 : Int) - (den.log2 : Int)
  let (n, d) := scale num den guess
  let top := if n < d then guess - 1 else guess
  max (top - 52) (-1074)

/-- The number nearest to the positive ratio `num / den`. -/
def ofRatio (negative : Bool) (num den : Nat) : Binary64 :=
  let q := unitExponent num den
  let (n, d) := scale num den q
  let m := roundDiv n d
  -- Rounding up may carry into a 54th bit.
  let (m, q) := if m = 2 * leastNormal then (leastNormal, q + 1) else (m, q)
  if 971 < q then .infinite negative else .finite negative m q

/-- The number nearest to `digits · 10 ^ power`. Ratios far outside the range are settled by their
magnitude alone. -/
def ofDecimal (negative : Bool) (digits : Nat) (power : Int) : Binary64 :=
  let magnitude : Int := ((Nat.toDigits 10 digits).length : Int) + power
  if digits = 0 ∨ magnitude < -330 then .finite negative 0 0
  else if 310 < magnitude then .infinite negative
  else ofRatio negative (digits * Nat.pow 10 power.toNat) (Nat.pow 10 (-power).toNat)

/-! ### The shortest decimal -/

/-- The grid of the multiples of `10 ^ k` around `mantissa · 2 ^ exponent`. All lengths are
multiples of one unit: a quarter of the mantissa's last place is `quarter` units, a step of the grid
is `step` units. -/
structure Grid where
  /-- Units in a quarter of the mantissa's last place. -/
  quarter : Nat
  /-- Units in one step of the grid. -/
  step : Nat

/-- The grid for `10 ^ k`. -/
def Grid.at (exponent k : Int) : Grid where
  quarter := Nat.pow 2 (exponent - 2).toNat * Nat.pow 10 (-k).toNat
  step := Nat.pow 2 (2 - exponent).toNat * Nat.pow 10 k.toNat

/-- Does the grid point `d` read back as the number? The reals that round to it reach half a place
to both sides, but only a quarter below where the places narrow; the ends belong to an even
mantissa. -/
def readsBack (mantissa : Nat) (exponent : Int) (g : Grid) (d : Nat) : Bool :=
  let below := if mantissa = leastNormal ∧ -1074 < exponent then 1 else 2
  let low := (4 * mantissa - below) * g.quarter
  let high := (4 * mantissa + 2) * g.quarter
  let point := d * g.step
  if mantissa % 2 = 0 then low ≤ point && point ≤ high else low < point && point < high

/-- The grid point next to the number that reads back, if there is one. -/
def onGrid (mantissa : Nat) (exponent k : Int) : Option (Nat × Int) :=
  let g := Grid.at exponent k
  let number := 4 * mantissa * g.quarter
  let down := number / g.step
  let up := down + 1
  match readsBack mantissa exponent g down, readsBack mantissa exponent g up with
  | true, true => if 2 * (number - down * g.step) < g.step then some (down, k) else some (up, k)
  | true, false => some (down, k)
  | false, true => some (up, k)
  | false, false => none

/-- The shortest decimal `digits · 10 ^ power` that reads back: the one on the coarsest grid that
has one. -/
def shortest (mantissa : Nat) (exponent : Int) : Nat × Int :=
  let powers := (List.range 656).map fun i : Nat => 310 - (i : Int)
  (powers.findSome? (onGrid mantissa exponent)).getD (0, 0)

/-- `digits · 10 ^ power` written out, with at least one digit on both sides of the point. -/
def positional (digits : Nat) (power : Int) : List Char :=
  let ds := Nat.toDigits 10 digits
  if 0 ≤ power then ds ++ List.replicate power.toNat '0' ++ ['.', '0']
  else
    let places := (-power).toNat
    let ds := List.replicate (places + 1 - ds.length) '0' ++ ds
    ds.take (ds.length - places) ++ '.' :: ds.drop (ds.length - places)

/-- The text of a number. -/
def text : Binary64 → String
  | .nan => "NaN"
  | .infinite negative => if negative then "-inf" else "inf"
  | .finite negative mantissa exponent =>
    let sign := if negative then "-" else ""
    let (digits, power) := if mantissa = 0 then (0, 0) else shortest mantissa exponent
    sign ++ String.ofList (positional digits power)

end Binary64

end TapeProbe
