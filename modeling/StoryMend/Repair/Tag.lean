import StoryMend.Text.Letter
import StoryMend.Text.Line

/-!
Tags in a text that need not parse.  A scan reads the text from left to right,
leaves out comments and strings, and keeps the names of the tags that are open.
A closing tag closes the innermost open tag if it has the same name and is
passed over otherwise.

The state of a scan knows the text before its place, last character first, so
that each step can look back; every step takes at least one character.
-/

namespace StoryMend.Repair

open Text

/-- Whether a tag opens an element, closes one or does both. -/
inductive TagKind where
  | opening
  | closing
  | selfClosing
deriving Repr, DecidableEq

/-- Whether `<` after a character may start an opening tag; after a name, a number or a
closing bracket it compares or holds type arguments. -/
def mayFollow (before : Option Char) : Bool :=
  match before with
  | none => true
  | some c => !(c.isAlphanum || c == '_' || c == '$' || c == ')' || c == ']')

/-- Whether a tag starts with the `<` before the given text. -/
def isTagStart (before : Option Char) : List Char → Bool
  | '/' :: c :: _ => c.isAlpha || c == '>'
  | c :: _ => (c.isAlpha || c == '>') && mayFollow before
  | [] => false

/-- Whether a character may be part of the name of a tag. -/
def isNameChar (c : Char) : Bool :=
  c.isAlphanum || c == '_' || c == '.' || c == '-' || c == ':'

/-- Whether a character is an operator or an opening bracket that a value follows. -/
def expectsValue (c : Char) : Bool := "=([\x7b,:?+!&|".toList.contains c

/-- Whether a quote starts a string, told the text before it, last character first: it
does at the start, after an operator or an opening bracket, and after `return`. -/
def inExpression (before : List Char) : Bool :=
  let before := before.dropWhile isPlainBlank
  match before with
  | [] => true
  | c :: _ =>
    expectsValue c ||
      match after? "nruter".toList before with
      | none => false
      | some rest => !rest.head?.any fun c => c.isAlphanum || c == '_' || c == '$'

/-- The length of a string from after its quote on, the closing quote included.  A
backslash takes the next character along, and only a template goes on over the end of
the line. -/
def stringLength (quote : Char) : List Char → Nat
  | [] => 0
  | '\\' :: _ :: rest => 2 + stringLength quote rest
  | c :: rest =>
    if c == '\\' then 1
    else if c == quote then 1
    else if c == '\n' && quote != '\x60' then 0
    else 1 + stringLength quote rest

/-- The length of a comment from after its opening mark on, up to and including the
closing mark. -/
def blockCommentLength : List Char → Nat
  | [] => 0
  | '*' :: '/' :: _ => 2
  | _ :: rest => 1 + blockCommentLength rest

/-- The length of a comment or string that starts here. -/
def literalLength? (before : List Char) : List Char → Option Nat
  | '/' :: '/' :: rest =>
    if before.head? == some ':' then none
    else some (2 + (rest.takeWhile (· != '\n')).length)
  | '/' :: '*' :: rest => some (2 + blockCommentLength rest)
  | c :: rest =>
    if (c == '"' || c == '\'' || c == '\x60') && inExpression before then
      some (1 + stringLength c rest)
    else none
  | [] => none

/-- Where the reading of the attributes of a tag has come to. -/
structure AttributeState where
  /-- How many braces are open. -/
  depth : Nat := 0
  /-- The quote of the string that is open. -/
  quote : Option Char := none
  /-- The last character that is not a blank. -/
  significant : Option Char := none
  previous : Option Char := none

/-- Reads one character within a tag. -/
def AttributeState.step (s : AttributeState) (c : Char) : AttributeState :=
  let s' :=
    match s.quote with
    | some q => if c == q && s.previous != some '\\' then { s with quote := none } else s
    | none =>
      if c == '"' || c == '\'' || c == '\x60' then { s with quote := some c }
      else if c == '{' then { s with depth := s.depth + 1 }
      else if c == '}' then { s with depth := s.depth - 1 }
      else s
  { s' with
    previous := some c
    significant := if isPlainBlank c then s.significant else some c }

/-- The kind of an opening tag and the length of its attributes, the end of the tag
included; `none` if the tag does not end. -/
def readAttributes (s : AttributeState) (length : Nat) : List Char → Option (TagKind × Nat)
  | [] => none
  | c :: rest =>
    if s.quote.isNone && s.depth == 0 && c == '>' then
      some (if s.significant == some '/' then .selfClosing else .opening, length + 1)
    else if s.quote.isNone && s.depth == 0 && c == '<' then none
    else readAttributes (s.step c) (length + 1) rest

/-- A tag that has been read, and how many characters it has. -/
structure Tag where
  /-- The name, empty for a fragment. -/
  name : List Char
  kind : TagKind
  length : Nat
deriving Repr, DecidableEq

/-- Reads the tag whose `<` stands before the given text; `none` if it does not end. -/
def Tag.read? : List Char → Option Tag
  | '/' :: rest =>
    let name := rest.takeWhile isNameChar
    let after := rest.dropWhile isNameChar
    match after.dropWhile isPlainBlank with
    | '>' :: _ => some {
        name
        kind := .closing
        length := 3 + name.length + (after.takeWhile isPlainBlank).length }
    | _ => none
  | rest =>
    let name := rest.takeWhile isNameChar
    let previous := (name.getLast?).or (some '<')
    (readAttributes { previous } (1 + name.length) (rest.dropWhile isNameChar)).map
      fun (kind, length) => { name, kind, length }

/-- The names of the open tags, innermost first, and where the last tag ends. -/
structure OpenTags where
  names : List (List Char) := []
  lastEnd : Nat := 0
deriving Repr, DecidableEq

/-- Takes a tag that ends at the given place into account. -/
def OpenTags.add (o : OpenTags) (tag : Tag) (tagEnd : Nat) : OpenTags where
  names :=
    match tag.kind with
    | .opening => tag.name :: o.names
    | .closing => if o.names.head? == some tag.name then o.names.tail else o.names
    | .selfClosing => o.names
  lastEnd := tagEnd

/-- What a scan finds at a place. -/
inductive Finding where
  /-- A comment or a string of the given length. -/
  | literal (length : Nat)
  | tag (tag : Tag)
  /-- A character that means nothing to the scan. -/
  | plain

/-- What stands at a place, told the text before it, last character first. -/
def Finding.at (before s : List Char) : Finding :=
  match literalLength? before s with
  | some n => .literal n
  | none =>
    match s with
    | '<' :: rest =>
      if isTagStart before.head? rest then
        match Tag.read? rest with
        | some t => .tag t
        | none => .plain
      else .plain
    | _ => .plain

/-- How many characters a finding takes. -/
def Finding.length : Finding → Nat
  | .literal n => n
  | .tag t => t.length
  | .plain => 1

/-- Scans a text from a place on; `before` is the text before it, last character
first. -/
def scanTags (before : List Char) (o : OpenTags) (s : List Char) : OpenTags :=
  match s with
  | [] => o
  | c :: rest =>
    let finding := Finding.at before (c :: rest)
    let taken := finding.length - 1
    let before' := (rest.take taken).reverse ++ c :: before
    let o := match finding with
      | .tag t => o.add t before'.length
      | _ => o
    scanTags before' o (rest.drop taken)
termination_by s.length
decreasing_by simp only [List.length_drop, List.length_cons]; omega

/-- The tags that are open at the end of a text. -/
def openTags (s : List Char) : OpenTags := scanTags [] {} s

end StoryMend.Repair
