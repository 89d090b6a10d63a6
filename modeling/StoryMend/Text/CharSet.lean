import StoryMend.Text.Packed

/-!
Sets of characters as sorted bounds: the characters up to the first bound are
outside, those up to the second inside, and so on.
-/

namespace StoryMend.Text

/-- A set of characters, by the codes where membership changes. -/
structure CharSet where
  bounds : Array Nat
deriving Repr, Inhabited

/-- How many elements of a sorted array, from `lo` on and before `hi`, are at most `n`,
added to `lo`. -/
def countUpTo (sorted : Array Nat) (n lo hi : Nat) : Nat :=
  if h : lo < hi then
    let mid := (lo + hi) / 2
    if sorted.getD mid 0 ≤ n then countUpTo sorted n (mid + 1) hi
    else countUpTo sorted n lo mid
  else lo
termination_by hi - lo

namespace CharSet

/-- Whether a character belongs to a set. -/
def contains (s : CharSet) (c : Char) : Bool :=
  countUpTo s.bounds c.toNat 0 s.bounds.size % 2 == 1

/-- Reads bounds that are written by their differences. -/
def ofPacked (lines : List String) : CharSet :=
  let (bounds, _) := (Packed.numbers lines).foldl
    (fun (bounds, last) gap => (bounds.push (last + gap), last + gap)) (#[], 0)
  { bounds }

end CharSet

end StoryMend.Text
