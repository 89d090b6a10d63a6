/-!
Binary floating point as exact arithmetic: a finite number is a signed mantissa
times a power of two.  A format bounds the mantissa and the exponent, and
`Format.round` finds the number of a format that is nearest to a quotient.
-/

namespace StoryMend.Number

/-- A binary format: mantissas are below `2 ^ precision`. -/
structure Format where
  precision : Nat
  minExponent : Int
  maxExponent : Int
deriving Repr, DecidableEq

/-- Single precision. -/
def single : Format := ⟨24, -149, 104⟩

/-- Double precision. -/
def double : Format := ⟨53, -1074, 971⟩

/-- A number of a binary format: `mantissa * 2 ^ exponent` with a sign, an infinity, or
no number at all. -/
inductive Binary where
  | finite (negative : Bool) (mantissa : Nat) (exponent : Int)
  | infinite (negative : Bool)
  | nan
deriving Repr, DecidableEq, Inhabited

/-- The numerator and denominator of `n * base ^ e`. -/
def scaled (n base : Nat) (e : Int) : Nat × Nat :=
  if e < 0 then (n, Nat.pow base e.natAbs) else (n * Nat.pow base e.natAbs, 1)

/-- The quotient rounded to the nearest natural number, halves to the even one. -/
def roundHalfEven (num den : Nat) : Nat :=
  let q := num / den
  let twice := 2 * (num % den)
  if twice < den then q
  else if den < twice then q + 1
  else if q % 2 = 0 then q else q + 1

/-- The greatest `k` with `2 ^ k ≤ num / den`, for a positive quotient. -/
def floorLog2 (num den : Nat) : Int :=
  let k : Int := num.log2 - den.log2
  let (n, d) := (num * (scaled 1 2 (-k)).1, den * (scaled 1 2 (-k)).2)
  if n < d then k - 1 else k

/-- The number of a format that is nearest to `num / den`, halfway cases to the even
mantissa. -/
def Format.round (f : Format) (negative : Bool) (num den : Nat) : Binary :=
  if num = 0 then .finite negative 0 f.minExponent
  else
    let e := max f.minExponent (floorLog2 num den - f.precision + 1)
    let (n, d) := scaled num 2 (-e)
    let m := roundHalfEven n (d * den)
    let (m, e) := if m = Nat.pow 2 f.precision then (m / 2, e + 1) else (m, e)
    if f.maxExponent < e then .infinite negative else .finite negative m e

/-- The number of a format that is nearest to a natural number. -/
def Format.ofNat (f : Format) (n : Nat) : Binary := f.round false n 1

/-- A number times the positive quotient `num / den`, rounded. -/
def Format.scale (f : Format) (num den : Nat) : Binary → Binary
  | .finite negative m e =>
    let (a, b) := scaled m 2 e
    f.round negative (a * num) (b * den)
  | x => x

namespace Binary

/-- Whether a number is finite. -/
def isFinite : Binary → Bool
  | finite .. => true
  | _ => false

/-- Whether a number is zero. -/
def isZero : Binary → Bool
  | finite _ m _ => m = 0
  | _ => false

/-- Whether a number is at most another one; false when one of them is no number. -/
def atMost : Binary → Binary → Bool
  | nan, _ | _, nan => false
  | infinite negative, b => negative || b == infinite false
  | _, infinite negative => !negative
  | finite s m e, finite t n k =>
    let (a, b) := scaled m 2 e
    let (c, d) := scaled n 2 k
    if s && !t then true
    else if !s && t then a = 0 && c = 0
    else if s then c * b ≤ a * d
    else a * d ≤ c * b

/-- Whether a number is finite and lies between two others, both included. -/
def isWithin (x least most : Binary) : Bool := x.isFinite && least.atMost x && x.atMost most

end Binary

end StoryMend.Number
