/-!
The written form of tables of numbers: every number is spelled in base
thirty-two, least digit first, with an alphabet of sixty-four marks.  The first
half of the alphabet ends a number, the second half continues it.
-/

namespace StoryMend.Text.Packed

/-- The marks in the order of their values. -/
def alphabet : String := "0123456789BCDFGHJKLMNPQRSTVWXYZbcdfghjklmnpqrstvwxyz+@*=<>^~:;,."

/-- The value of each mark, by its code. -/
def values : Array Nat :=
  (alphabet.toList.zipIdx).foldl (fun table (c, i) => table.setIfInBounds c.toNat i)
    (Array.replicate 128 0)

/-- Numbers read so far, and the value and scale of the one being read. -/
structure Reading where
  done : Array Nat := #[]
  value : Nat := 0
  scale : Nat := 1

/-- Reads one mark. -/
def Reading.mark (r : Reading) (c : Char) : Reading :=
  let v := values.getD c.toNat 0
  if v < 32 then { done := r.done.push (r.value + v * r.scale) }
  else { r with value := r.value + (v - 32) * r.scale, scale := r.scale * 32 }

/-- The numbers that the lines of a text spell. -/
def numbers (lines : List String) : Array Nat :=
  (lines.foldl (fun (r : Reading) (line : String) => line.foldl Reading.mark r) {}).done

end StoryMend.Text.Packed
