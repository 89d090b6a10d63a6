import StoryMend.Text.Line

/-!
Fenced blocks of a chat reply.  A fence is a line of three backticks, with a tag
or without one; fences are paired in the order of the text, and the last one may
stay open.
-/

namespace StoryMend.Reply

open Text

/-- The mark of a fence. -/
def fenceMark : List Char := ['\x60', '\x60', '\x60']

/-- Whether a character may be part of the tag of a fence. -/
def isTagChar (c : Char) : Bool := c.isAlphanum || c == '_' || c == '+' || c == '-'

/-- The tag of a fence line, `none` for any other line. -/
def fenceTag? (line : List Char) : Option (List Char) :=
  match after? fenceMark (line.dropWhile isSpace) with
  | none => none
  | some rest =>
    let info := rest.dropWhile isSpace
    match (info.dropWhile isTagChar).dropWhile isSpace with
    | [] | ['\r'] => some (info.takeWhile isTagChar)
    | _ => none

/-- A stretch of lines after a fence, up to the next fence or the end of the text. -/
structure Block where
  tag : List Char
  body : List (List Char)
  /-- Whether a second fence ends the block. -/
  closed : Bool
deriving Repr, DecidableEq

mutual

/-- The blocks of lines that stand outside a block. -/
def blocksOutside : List (List Char) → List Block
  | [] => []
  | line :: rest =>
    match fenceTag? line with
    | none => blocksOutside rest
    | some tag => blocksInside tag [] rest

/-- The blocks of lines that stand in a block with the given tag, of which `body` has
been read, last line first. -/
def blocksInside (tag : List Char) (body : List (List Char)) : List (List Char) → List Block
  | [] => [{ tag, body := body.reverse, closed := false }]
  | line :: rest =>
    match fenceTag? line with
    | none => blocksInside tag (line :: body) rest
    | some _ => { tag, body := body.reverse, closed := true } :: blocksOutside rest

end

/-- The fenced blocks of a text, in order. -/
def blocks (s : List Char) : List Block := blocksOutside (lines s)

end StoryMend.Reply
