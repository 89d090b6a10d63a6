import StoryMend.Text.CharSet

/-!
Maps between characters, kept as runs: characters at a fixed stride that all go
to the character at one distance.
-/

namespace StoryMend.Text

/-- Characters from `first` to `last`, every `stride`-th, which go to the character
`distance` further. -/
structure CaseRun where
  first : Nat
  last : Nat
  stride : Nat
  distance : Int
deriving Repr, Inhabited

/-- A map between characters, by its runs in order. -/
structure CaseMap where
  starts : Array Nat
  runs : Array CaseRun
deriving Repr, Inhabited

namespace CaseMap

/-- The counterpart of a character, if it has one. -/
def counterpart? (m : CaseMap) (c : Char) : Option Char :=
  match countUpTo m.starts c.toNat 0 m.starts.size with
  | 0 => none
  | n + 1 =>
    match m.runs[n]? with
    | none => none
    | some run =>
      if c.toNat ≤ run.last && (c.toNat - run.first) % run.stride == 0 then
        some (Char.ofNat (c.toNat + run.distance).toNat)
      else none

/-- Reads runs: the gap before the run, how many strides it has, the stride, and the
distance, whose even codes are the non-negative ones. -/
def ofPacked (lines : List String) : CaseMap := Id.run do
  let codes := Packed.numbers lines
  let mut starts := #[]
  let mut runs := #[]
  let mut last := 0
  for i in [0:codes.size / 4] do
    let first := last + codes.getD (4 * i) 0
    let stride := codes.getD (4 * i + 2) 0
    let sign := codes.getD (4 * i + 3) 0
    last := first + codes.getD (4 * i + 1) 0 * stride
    let distance : Int :=
      if sign % 2 = 0 then Int.ofNat (sign / 2) else -(Int.ofNat ((sign + 1) / 2))
    starts := starts.push first
    runs := runs.push { first, last, stride, distance }
  return { starts, runs }

end CaseMap

end StoryMend.Text
