import StoryMend.Syntax.Cursor

/-!
Tokens that the lexical automata cannot tell apart: the end of a statement where
no semicolon is written, the text of template literals and of markup, the
question mark of a conditional, and comments of the markup kind.  Which of them
is read depends on the set of tokens that the parser admits and, for typed
modules, on a few further rules.
-/

namespace StoryMend.Syntax

/-- The context-dependent tokens, in the order in which automata number them. -/
inductive ScanToken where
  | statementEnd
  | templateText
  | conditionalMark
  | markupComment
  | logicalOr
  | escapeSequence
  | regexBody
  | markupText
  | signatureEnd
deriving Repr, DecidableEq

namespace ScanToken

/-- The number of a token. -/
def index : ScanToken → Nat
  | statementEnd => 0
  | templateText => 1
  | conditionalMark => 2
  | markupComment => 3
  | logicalOr => 4
  | escapeSequence => 5
  | regexBody => 6
  | markupText => 7
  | signatureEnd => 8

end ScanToken

namespace Scanner

/-- The blanks between tokens. -/
def isBlank (c : Char) : Bool := c = ' ' || (9 ≤ c.toNat && c.toNat ≤ 13)

/-- Characters that end a line of a script. -/
def isLineEnd (c : Char) : Bool := c = '\n' || c.toNat = 0x2028 || c.toNat = 0x2029

/-- The null character stands for the end of the text. -/
def isNull (c : Char) : Bool := c.toNat = 0

/-- Skips characters while `p` holds. -/
def skipWhile (p : Char → Bool) (c : Cursor) : Nat → Cursor
  | 0 => c
  | fuel + 1 => if !c.atEnd && p c.peek then skipWhile p c.skip fuel else c

/-- Reads characters while `p` holds. -/
def takeWhile (p : Char → Bool) (c : Cursor) : Nat → Cursor
  | 0 => c
  | fuel + 1 => if !c.atEnd && p c.peek then takeWhile p c.advance fuel else c

/-- Skips blanks. -/
def skipBlanks (c : Cursor) : Cursor := skipWhile isBlank c (c.remaining + 1)

/-- Reads the text of a template literal up to a back quote, a substitution or an
escape; at least one character. -/
def templateText (c : Cursor) (hasContent : Bool) : Nat → Bool × Cursor
  | 0 => (false, c)
  | fuel + 1 =>
    let c := c.markEnd
    if c.peek = '\x60' || c.peek = '\\' then (hasContent, c)
    else if isNull c.peek then (false, c)
    else
      let dollar := c.peek = '$'
      let c := c.advance
      if dollar && c.peek = '\x7b' then (hasContent, c) else templateText c true fuel

/-- Reads the text between tags, up to a tag, a brace or a character reference.
A line break with the blanks after it is no content by itself. -/
def markupText (c : Cursor) (content onNewLine : Bool) : Nat → Bool × Cursor
  | 0 => (content, c)
  | fuel + 1 =>
    let x := c.peek
    if isNull x || x = '<' || x = '>' || x = '\x7b' || x = '\x7d' || x = '&' then (content, c)
    else if x = '\n' then markupText c.advance content true fuel
    else
      let onNewLine := onNewLine && isBlank x
      markupText c.advance (content || !onNewLine) onNewLine fuel

/-- Reads the given characters. -/
def literal (c : Cursor) : List Char → Option Cursor
  | [] => some c
  | x :: rest => if !c.atEnd && c.peek = x then literal c.advance rest else none

/-- Reads a comment that starts like a markup comment and runs to the end of its
line. -/
def markupComment (c : Cursor) : Bool × Cursor :=
  let c := skipWhile (fun x => isBlank x || x.toNat = 0x2028 || x.toNat = 0x2029) c
    (c.remaining + 1)
  let opened :=
    if c.peek = '<' then literal c ['<', '!', '-', '-']
    else if c.peek = '-' then literal c ['-', '-', '>']
    else none
  match opened with
  | none => (false, c)
  | some c =>
    let c := takeWhile (fun x => !isNull x && !isLineEnd x) c (c.remaining + 1)
    (true, c.markEnd)

/-- Reads the question mark of a conditional.  Two question marks and optional
chains are other tokens; in typed modules so is the mark of an optional
parameter. -/
def conditionalMark (typed : Bool) (c : Cursor) : Bool × Cursor :=
  let c := skipBlanks c
  if c.peek ≠ '?' then (false, c)
  else
    let c := c.advance
    if c.peek = '?' || (typed && c.peek = '.') then (false, c)
    else
      let c := c.markEnd
      let c := if typed then takeWhile isBlank c (c.remaining + 1) else c
      if typed && (c.peek = ':' || c.peek = ')' || c.peek = ',') then (false, c)
      else if c.peek = '.' then
        let c := c.advance
        (c.peek.isDigit, c)
      else (true, c)

/-- What was found while skipping blanks and comments. -/
inductive Gap where
  /-- A slash that starts no comment. -/
  | broken
  /-- A block comment without a line break, and more to decide after it. -/
  | undecided
  | clear
deriving DecidableEq

/-- Skips a block comment after its opening; tells whether it was closed and whether
it holds a line break. -/
def blockComment (c : Cursor) (lineBreak : Bool) : Nat → Bool × Bool × Cursor
  | 0 => (false, lineBreak, c)
  | fuel + 1 =>
    if isNull c.peek then (false, lineBreak, c)
    else if c.peek = '*' then
      let c := c.skip
      if c.peek = '/' then (true, lineBreak, c.skip) else blockComment c lineBreak fuel
    else blockComment c.skip (lineBreak || isLineEnd c.peek) fuel

/-- Skips blanks and comments.  `commented` tells whether a comment was passed; in
typed modules block comments do not count.  With `consume` unset, an untyped
module stops after a block comment that settles the question. -/
def gap (typed consume : Bool) (c : Cursor) (commented lineBreak : Bool) :
    Nat → Gap × Bool × Cursor
  | 0 => (.clear, commented, c)
  | fuel + 1 =>
    let c := skipBlanks c
    if c.peek ≠ '/' then (.clear, commented, c)
    else
      let c := c.skip
      if c.peek = '/' then
        let stops := fun x => isNull x || x = '\n' || (!typed && isLineEnd x)
        gap typed consume (skipWhile (fun x => !stops x) c (c.remaining + 1)) true lineBreak fuel
      else if c.peek = '*' then
        let (closed, lineBreak, c) := blockComment c.skip lineBreak (c.remaining + 1)
        let commented := commented || (closed && !typed)
        if closed && !typed && !consume && c.peek ≠ '/' then
          (if lineBreak then .clear else .undecided, commented, c)
        else gap typed consume c commented lineBreak fuel
      else (.broken, commented, c)

/-- Whether a word that starts with `i` at the cursor lets the statement end before
it: the operators `in` and `instanceof` do not. -/
def endsBeforeWord (c : Cursor) : Bool × Cursor :=
  let c := c.skip
  if c.peek ≠ 'n' then (true, c)
  else
    let c := c.skip
    if !c.peek.isAlpha then (false, c)
    else rest c ['s', 't', 'a', 'n', 'c', 'e', 'o', 'f']
where
  /-- Compares the rest of the longer operator. -/
  rest (c : Cursor) : List Char → Bool × Cursor
    | [] => (c.peek.isAlpha, c)
    | x :: more => if c.peek = x then rest c.skip more else (true, c)

/-- Whether a statement may end before the character at the cursor, after a line
break. -/
def endsBefore (typed : Bool) (valid : ScanToken → Bool) (c : Cursor) : Bool × Cursor :=
  let x := c.peek
  if x = '\x60' || x = ',' || x = ':' || x = ';' || x = '*' || x = '%' || x = '>' || x = '<' ||
      x = '=' || x = '?' || x = '^' || x = '|' || x = '&' || x = '/' then (false, c)
  else if x = '.' then
    if typed then (false, c)
    else
      let c := c.skip
      (c.peek.isDigit, c)
  else if x = '\x7b' then (!(typed && valid .signatureEnd), c)
  else if x = '(' || x = '[' then (typed && !valid .logicalOr, c)
  else if x = '+' then
    let c := c.skip
    (c.peek = '+', c)
  else if x = '-' then
    let c := c.skip
    (c.peek = '-', c)
  else if x = '!' then
    let c := c.skip
    (c.peek ≠ '=', c)
  else if x = 'i' then endsBeforeWord c
  else (true, c)

/-- How the search for a line break ended. -/
inductive LineSearch where
  | decided (ends : Bool)
  | lineBreak

/-- Looks for the line break that may end a statement in a typed module. -/
def searchTyped (valid : ScanToken → Bool) (c : Cursor) : Nat → LineSearch × Cursor
  | 0 => (.decided false, c)
  | fuel + 1 =>
    let x := c.peek
    if isNull x then (.decided true, c)
    else if x = '\x7d' then
      let c := skipBlanks c.skip
      (.decided (if c.peek = ':' then valid .logicalOr else true), c)
    else if !isBlank x then (.decided false, c)
    else if x = '\n' then (.lineBreak, c)
    else searchTyped valid c.skip fuel

/-- Looks for the line break that may end a statement in an untyped module. -/
def searchUntyped (valid : ScanToken → Bool) (c : Cursor) (commented : Bool) :
    Nat → LineSearch × Bool × Cursor
  | 0 => (.decided false, commented, c)
  | fuel + 1 =>
    if isNull c.peek then (.decided true, commented, c)
    else
      let (result, commented, c) :=
        if c.peek = '/' then gap false false c commented false (c.remaining + 1)
        else (.undecided, commented, c)
      if result = .broken then (.decided false, commented, c)
      else if result = .clear && !valid .logicalOr && c.peek ≠ ',' && c.peek ≠ '=' then
        (.decided true, commented, c)
      else if c.peek = '\x7d' then (.decided true, commented, c)
      else if c.position.bytes = 0 && !c.atEnd then (.decided true, commented, c)
      else if isLineEnd c.peek then (.lineBreak, commented, c)
      else if !isBlank c.peek then (.decided false, commented, c)
      else searchUntyped valid c.skip commented fuel

/-- Decides whether a statement ends here without a semicolon; also tells whether
a comment was passed. -/
def statementEnd (typed : Bool) (valid : ScanToken → Bool) (c : Cursor) : Bool × Bool × Cursor :=
  let c := c.markEnd
  let fuel := c.remaining + 1
  let (found, commented, c) :=
    if typed then
      let (found, c) := searchTyped valid c fuel
      (found, false, c)
    else searchUntyped valid c false fuel
  match found with
  | .decided ends => (ends, commented, c)
  | .lineBreak =>
    let (result, commented, c) := gap typed true c.skip commented false (c.remaining + 1)
    if result = .broken then (false, commented, c)
    else
      let (ends, c) := endsBefore typed valid c
      (ends, commented, c)

/-- Reads one of the tokens that `valid` admits. -/
def scan (typed : Bool) (valid : ScanToken → Bool) (c : Cursor) : Option ScanToken × Cursor :=
  let found (token : ScanToken) (r : Bool × Cursor) : Option ScanToken × Cursor :=
    (if r.1 then some token else none, r.2)
  if valid .templateText then
    if valid .statementEnd then (none, c)
    else found .templateText (templateText c false (c.remaining + 2))
  else
    let (isText, c) :=
      if valid .markupText then markupText c false false (c.remaining + 1) else (false, c)
    if isText then (some .markupText, c)
    else if valid .statementEnd || (typed && valid .signatureEnd) then
      let (ends, commented, c) := statementEnd typed valid c
      if ends then (some .statementEnd, c)
      else if !commented && valid .conditionalMark && c.peek = '?' then
        found .conditionalMark (conditionalMark typed c)
      else (none, c)
    else if valid .conditionalMark then found .conditionalMark (conditionalMark typed c)
    else if valid .markupComment && !valid .logicalOr && !valid .escapeSequence &&
        !valid .regexBody then
      found .markupComment (markupComment c)
    else (none, c)

end Scanner

end StoryMend.Syntax
