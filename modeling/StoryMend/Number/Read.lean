import StoryMend.Number.Digits

/-!
Numbers read from text: naturals with an optional plus sign and an upper bound,
and floating point numbers with an optional sign, point and exponent.
-/

namespace StoryMend.Number

/-- The value of a digit. -/
def digit? (c : Char) : Option Nat := if c.isDigit then some (c.toNat - '0'.toNat) else none

/-- The value of digits read after the value `n`. -/
def digitsFrom (n : Nat) (digits : List Char) : Nat :=
  digits.foldl (fun n c => 10 * n + (digit? c).getD 0) n

/-- Reads a natural number below `bound`; a plus sign may come first. -/
def natural? (bound : Nat) (s : String) : Option Nat :=
  let digits := match s.toList with
    | '+' :: rest => rest
    | s => s
  if digits.isEmpty || !digits.all Char.isDigit then none
  else
    let n := digitsFrom 0 digits
    if n < bound then some n else none

/-- The number of a format that is nearest to `digits * 10 ^ exponent`.  Exponents far
beyond the format give zero or an infinity at once. -/
def Format.ofDecimal (f : Format) (negative : Bool) (d : Decimal) : Binary :=
  let size : Int := (toString d.digits).length + d.exponent
  if d.digits = 0 || size < -400 then .finite negative 0 f.minExponent
  else if 400 < size then .infinite negative
  else
    let (num, den) := scaled d.digits 10 d.exponent
    f.round negative num den

/-- Reads an exponent, `0` if there is none. -/
private def exponent? : List Char → Option Int
  | [] => some 0
  | c :: rest =>
    if c != 'e' && c != 'E' then none
    else
      let (negative, digits) := match rest with
        | '-' :: rest => (true, rest)
        | '+' :: rest => (false, rest)
        | rest => (false, rest)
      if digits.isEmpty || !digits.all Char.isDigit then none
      else
        let n : Int := digitsFrom 0 (digits.dropWhile (· == '0') |>.take 9)
        some (if negative then -n else n)

/-- Reads a number without its sign. -/
private def unsigned? (f : Format) (negative : Bool) (s : List Char) : Option Binary :=
  match String.ofList (s.map Char.toLower) with
  | "inf" | "infinity" => some (.infinite negative)
  | "nan" => some .nan
  | _ =>
    let whole := s.takeWhile Char.isDigit
    let rest := s.dropWhile Char.isDigit
    let (fraction, rest) := match rest with
      | '.' :: rest => (rest.takeWhile Char.isDigit, rest.dropWhile Char.isDigit)
      | rest => ([], rest)
    if whole.isEmpty && fraction.isEmpty then none
    else
      (exponent? rest).map fun e =>
        f.ofDecimal negative ⟨digitsFrom 0 (whole ++ fraction), e - fraction.length⟩

/-- Reads a number of a format. -/
def Format.read? (f : Format) (s : String) : Option Binary :=
  match s.toList with
  | '-' :: rest => unsigned? f true rest
  | '+' :: rest => unsigned? f false rest
  | s => unsigned? f false s

end StoryMend.Number
