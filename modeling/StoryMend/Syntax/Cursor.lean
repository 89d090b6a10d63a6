import StoryMend.Syntax.Automaton

/-!
A place in a text while a token is being read.  The cursor knows where the token
starts and, once that is decided, where it ends; reading may go on beyond the
end to decide what the token is.  `Cursor.run` follows a lexical automaton and
keeps the longest token that it accepts.
-/

namespace StoryMend.Syntax

/-- A place in a text, with the bounds of the token being read. -/
structure Cursor where
  text : Array Char
  position : Extent := {}
  tokenStart : Extent := {}
  tokenEnd : Option Extent := none
deriving Inhabited

namespace Cursor

/-- The character at the cursor. -/
def char? (c : Cursor) : Option Char := c.text[c.position.chars]?

/-- Whether nothing is left to read. -/
def atEnd (c : Cursor) : Bool := c.text.size ≤ c.position.chars

/-- The character at the cursor, the null character at the end of the text. -/
def peek (c : Cursor) : Char := c.char?.getD '\x00'

/-- How many more characters can be read. -/
def remaining (c : Cursor) : Nat := c.text.size - c.position.chars

/-- Moves to a place, forgetting nothing of the token. -/
def moveTo (c : Cursor) (position : Extent) : Cursor := { c with position }

/-- Reads one character into the token. -/
def advance (c : Cursor) : Cursor :=
  match c.char? with
  | none => c
  | some x => { c with position := c.position + Extent.ofChar x }

/-- Reads one character and starts the token after it. -/
def skip (c : Cursor) : Cursor :=
  match c.char? with
  | none => c
  | some x =>
    let position := c.position + Extent.ofChar x
    { c with position, tokenStart := position }

/-- Ends the token here, unless a later mark moves the end. -/
def markEnd (c : Cursor) : Cursor := { c with tokenEnd := some c.position }

/-- Starts a token here; a byte order mark at the start of the text is left out. -/
def startToken (c : Cursor) : Cursor :=
  let c := { c with tokenStart := c.position, tokenEnd := none }
  if c.position.bytes = 0 && c.peek = '\uFEFF' then c.skip else c

/-- Settles the bounds of the token. -/
def finish (c : Cursor) : Cursor :=
  let tokenEnd := c.tokenEnd.getD c.position
  { c with
    tokenEnd := some tokenEnd
    tokenStart := if tokenEnd.bytes < c.tokenStart.bytes then tokenEnd else c.tokenStart }

/-- Where the token ends. -/
def stop (c : Cursor) : Extent := c.tokenEnd.getD c.position

/-- Follows a lexical automaton from `state`; `found` is the last token accepted. -/
def follow (m : Automaton) (table : LexTable) (state : Nat) (c : Cursor) (found : Option Symbol) :
    Nat → Option Symbol × Cursor
  | 0 => (found, c)
  | fuel + 1 =>
    let row := table.states.getD state default
    let (found, c) := match row.accepts with
      | some s => (some s, c.markEnd)
      | none => (found, c)
    match c.char? with
    | none =>
      match row.onEnd with
      | some target => follow m table target c found fuel
      | none => (found, c)
    | some x =>
      match row.steps.getD (m.charClass x) 0 with
      | 0 => (found, c)
      | n + 1 => follow m table (n / 2) (if n % 2 = 1 then c.advance else c.skip) found fuel

/-- Reads a token of a lexical automaton, starting in `state`. -/
def run (m : Automaton) (table : LexTable) (state : Nat) (c : Cursor) : Option Symbol × Cursor :=
  follow m table state c none (c.remaining + 3)

end Cursor

end StoryMend.Syntax
