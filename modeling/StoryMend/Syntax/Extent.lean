/-!
Distances in a text.  An extent counts the same stretch of text four ways: in
characters, in bytes of its UTF-8 form, in line breaks, and in bytes since the
last line break.  Positions are extents measured from the start of the text.
-/

namespace StoryMend.Syntax

/-- A stretch of text, measured in characters, bytes, rows and columns. -/
structure Extent where
  chars : Nat := 0
  bytes : Nat := 0
  rows : Nat := 0
  cols : Nat := 0
deriving Repr, DecidableEq, Inhabited

namespace Extent

/-- The extent of one character. -/
def ofChar (c : Char) : Extent :=
  if c = '\n' then ⟨1, 1, 1, 0⟩ else ⟨1, c.utf8Size, 0, c.utf8Size⟩

/-- Two stretches one after the other: columns restart after a line break of
the second. -/
def append (a b : Extent) : Extent where
  chars := a.chars + b.chars
  bytes := a.bytes + b.bytes
  rows := a.rows + b.rows
  cols := if b.rows = 0 then a.cols + b.cols else b.cols

instance : Add Extent := ⟨append⟩

/-- What lies between the position `b` and a later position `a`. -/
def since (a b : Extent) : Extent where
  chars := a.chars - b.chars
  bytes := a.bytes - b.bytes
  rows := a.rows - b.rows
  cols := if a.rows > b.rows then a.cols else a.cols - b.cols

instance : Sub Extent := ⟨since⟩

/-- The extent of a whole text. -/
def ofText (text : List Char) : Extent :=
  text.foldl (fun e c => e + ofChar c) {}

end Extent

end StoryMend.Syntax
