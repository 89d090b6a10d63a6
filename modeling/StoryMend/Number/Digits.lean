import StoryMend.Number.Binary

/-!
The fewest decimal digits that read back to a number of a binary format.  The
reals that round to a number form an interval around it; decimal grids of one,
two and more digits are searched in turn for a point in the interval, and the
nearer one of two points is taken.
-/

namespace StoryMend.Number

/-- The decimal number `digits * 10 ^ exponent`. -/
structure Decimal where
  digits : Nat
  exponent : Int
deriving Repr, DecidableEq, Inhabited

/-- The least `k` with `num / den < 10 ^ k`, found from the binary logarithm. -/
def ceilLog10 (num den : Nat) : Int :=
  let guess : Int := (floorLog2 num den) * 30103 / 100000
  let below (k : Int) : Bool :=
    let (n, d) := scaled 1 10 k
    num * d < n * den
  if below (guess - 1) then guess - 1
  else if below guess then guess
  else if below (guess + 1) then guess + 1
  else guess + 2

/-- A decimal without zeros at its end. -/
def Decimal.strip (digits : Nat) (exponent : Int) : Nat → Decimal
  | 0 => ⟨digits, exponent⟩
  | fuel + 1 =>
    if digits != 0 && digits % 10 == 0 then strip (digits / 10) (exponent + 1) fuel
    else ⟨digits, exponent⟩

/-- The point on a decimal grid that reads back to `mantissa * 2 ^ exponent` and is
nearest to it, if there is one. -/
def gridPoint? (f : Format) (mantissa : Nat) (exponent grid : Int) : Option Nat :=
  let (unit, unitParts) := scaled 1 2 (exponent - 2)
  let (scale, scaleParts) := scaled 1 10 (-grid)
  -- the value and the bounds of its interval, as multiples of one common fraction
  let value := 4 * mantissa * unit * scale
  let gapBelow := if mantissa = Nat.pow 2 (f.precision - 1) && f.minExponent < exponent then 1 else 2
  let low := (4 * mantissa - gapBelow) * unit * scale
  let high := (4 * mantissa + 2) * unit * scale
  let step := unitParts * scaleParts
  let isInside (n : Nat) : Bool :=
    if mantissa % 2 = 0 then low ≤ n * step && n * step ≤ high
    else low < n * step && n * step < high
  let down := value / step
  match isInside down, isInside (down + 1) with
  | true, false => some down
  | false, true => some (down + 1)
  | false, false => none
  | true, true =>
    let toDown := value - down * step
    let toUp := (down + 1) * step - value
    if toDown < toUp || (toDown == toUp && down % 2 == 0) then some down else some (down + 1)

/-- The first of `fuel` grids, with `n` digits or more, that has a point for the
number. -/
def searchGrids (f : Format) (mantissa : Nat) (exponent top : Int) (n : Nat) : Nat → Decimal
  | 0 => ⟨mantissa * Nat.pow 2 exponent.toNat * Nat.pow 5 (-exponent).toNat, min exponent 0⟩
  | fuel + 1 =>
    match gridPoint? f mantissa exponent (top - n) with
    | some digits => Decimal.strip digits (top - n) 20
    | none => searchGrids f mantissa exponent top (n + 1) fuel

/-- The fewest digits that read back to `mantissa * 2 ^ exponent`. -/
def shortest (f : Format) (mantissa : Nat) (exponent : Int) : Decimal :=
  if mantissa = 0 then ⟨0, 0⟩
  else
    let (num, den) := scaled mantissa 2 exponent
    searchGrids f mantissa exponent (ceilLog10 num den) 1 17

end StoryMend.Number
