import StoryMend.Pattern.Error

/-!
Patterns as they are written: characters, classes of characters, edges, groups,
repetitions, sequences and alternatives.
-/

namespace StoryMend.Pattern

/-- Classes that are written by one letter. -/
inductive Shorthand where
  | digit
  | blank
  | word
deriving Repr, DecidableEq

/-- A property of characters, by its name or by its name and a value. -/
structure Property where
  name : String
  value : Option String := none
  negated : Bool := false
  span : Span
deriving Repr, DecidableEq

/-- How two classes are combined. -/
inductive ClassOperator where
  | both
  | onlyFirst
  | exactlyOne
deriving Repr, DecidableEq

/-- A class of characters between brackets. -/
inductive CharClass where
  | literal (c : Char)
  | range (first last : Char)
  | plain (name : String) (negated : Bool)
  | shorthand (kind : Shorthand) (negated : Bool)
  | property (p : Property)
  | nested (negated : Bool) (c : CharClass) (span : Span)
  | union (items : List CharClass)
  | combined (operator : ClassOperator) (a b : CharClass)
deriving Repr

/-- Settings that change what a pattern means; `none` where they stay as they are. -/
structure Flags where
  ignoreCase : Option Bool := none
  multiLine : Option Bool := none
  dotAll : Option Bool := none
  unicode : Option Bool := none
  crlf : Option Bool := none
  ignoreBlanks : Option Bool := none
deriving Repr, DecidableEq

/-- Places that a pattern can ask for. -/
inductive Edge where
  | lineStart
  | lineEnd
  | textStart
  | textEnd
  | word
  | noWord
  | wordStart
  | wordEnd
  | wordStartHalf
  | wordEndHalf
deriving Repr, DecidableEq

/-- A pattern as it is written. -/
inductive Expression where
  | empty
  | flags (f : Flags)
  | literal (c : Char) (span : Span)
  | any (span : Span)
  | edge (e : Edge)
  | shorthand (kind : Shorthand) (negated : Bool) (span : Span)
  | property (p : Property)
  | charClass (negated : Bool) (c : CharClass) (span : Span)
  | group (f : Flags) (e : Expression)
  | repetition (e : Expression) (least : Nat) (most : Option Nat)
  | sequence (parts : List Expression)
  | alternatives (branches : List Expression)
deriving Repr

/-- Whether an expression is nothing that could be repeated. -/
def Expression.isVoid : Expression → Bool
  | .empty | .flags _ => true
  | _ => false

end StoryMend.Pattern
