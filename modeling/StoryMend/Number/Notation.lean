import StoryMend.Number.Digits

/-!
Two ways to write a number: positionally, and with an exponent where the number
is large or small.
-/

namespace StoryMend.Number

/-- `n` zeros. -/
def zeros (n : Nat) : String := String.ofList (List.replicate n '0')

/-- Which numbers are written positionally, by the place of the point among their
digits. -/
structure Notation where
  /-- Integers are written out if they have at most this many digits. -/
  maxInteger : Int
  /-- The least place of the point that is written out. -/
  minPoint : Int
  /-- Whether an integer is written with a point and a zero. -/
  pointAlways : Bool

/-- Every number is written out. -/
def plain : Notation := ⟨10000, -10000, false⟩

/-- How numbers of double precision stand in messages. -/
def doubleText : Notation := ⟨16, -5, true⟩

/-- How numbers of single precision stand in bodies of requests. -/
def singleText : Notation := ⟨13, -6, true⟩

/-- Writes a decimal without its sign. -/
def Notation.writeDecimal (n : Notation) (d : Decimal) : String :=
  let text := toString d.digits
  let count : Int := text.length
  let point := count + d.exponent
  if 0 ≤ d.exponent && point ≤ n.maxInteger then
    text ++ zeros d.exponent.toNat ++ (if n.pointAlways then ".0" else "")
  else if 0 < point && point ≤ n.maxInteger then
    (text.take point.toNat).toString ++ "." ++ (text.drop point.toNat).toString
  else if n.minPoint < point && point ≤ 0 then
    "0." ++ zeros (-point).toNat ++ text
  else
    let rest := (text.drop 1).toString
    (text.take 1).toString ++ (if rest.isEmpty then "" else "." ++ rest) ++
      s!"e{point - 1}"

/-- Writes a number of a format. -/
def Notation.write (n : Notation) (f : Format) : Binary → String
  | .nan => "NaN"
  | .infinite negative => if negative then "-inf" else "inf"
  | .finite negative m e =>
    (if negative then "-" else "") ++ n.writeDecimal (if m = 0 then ⟨0, 0⟩ else shortest f m e)

end StoryMend.Number
