import StoryMend.Syntax.Tree

/-!
The text that a node covers.  Offsets count bytes, so a stretch of a text exists
only where both its ends lie between characters.
-/

namespace StoryMend.Syntax

/-- The characters of a text from one byte offset up to another; `none` if an offset lies
within a character or beyond the end. -/
def slice? : (start stop : Nat) → List Char → Option (List Char)
  | 0, 0, _ => some []
  | _, _, [] => none
  | start, stop, c :: rest =>
    if start = 0 then
      if c.utf8Size ≤ stop then (slice? 0 (stop - c.utf8Size) rest).map (c :: ·) else none
    else if c.utf8Size ≤ start ∧ start ≤ stop then
      slice? (start - c.utf8Size) (stop - c.utf8Size) rest
    else none

/-- The text that a node covers, empty if there is no such text. -/
def Node.text (source : List Char) (n : Node) : List Char :=
  (slice? n.span.start n.span.stop source).getD []

end StoryMend.Syntax
