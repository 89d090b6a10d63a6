import StoryMend.Pattern.Property
import StoryMend.Pattern.Reading

/-!
What patterns mean: sets of characters, conditions on a place, sequences,
alternatives and repetitions.  Only whether a pattern matches somewhere is of
interest, so that a match is found by following all places that can be reached.

Those who use patterns take any compiler.  The one here knows the syntax in full, but
only some scripts and properties of characters by name, and sets no limit to the size
of a pattern.
-/

namespace StoryMend.Pattern

open Text

/-- The settings in force at a place of a pattern. -/
structure Mode where
  ignoreCase : Bool := false
  multiLine : Bool := false
  dotAll : Bool := false
  unicode : Bool := true
  crlf : Bool := false
deriving Repr, DecidableEq

/-- The settings after flags. -/
def Mode.with (m : Mode) (f : Flags) : Mode where
  ignoreCase := f.ignoreCase.getD m.ignoreCase
  multiLine := f.multiLine.getD m.multiLine
  dotAll := f.dotAll.getD m.dotAll
  unicode := f.unicode.getD m.unicode
  crlf := f.crlf.getD m.crlf

/-- What a pattern means. -/
inductive Meaning where
  | empty
  | one (p : Char → Bool)
  /-- A condition on the character before a place and the text from there on. -/
  | edge (p : Option Char → List Char → Bool)
  | sequence (a b : Meaning)
  | either (a b : Meaning)
  | repetition (m : Meaning) (least : Nat) (most : Option Nat)

/-- A set closed under change of case, if case does not count. -/
def Mode.fold (m : Mode) (p : Char → Bool) : Char → Bool :=
  if m.ignoreCase then
    if m.unicode then fun c => (caseVariants c).any p
    else fun c => p c || p c.toLower || p c.toUpper
  else p

/-- A set or its complement. -/
def negateIf (negated : Bool) (p : Char → Bool) : Char → Bool := fun c => p c != negated

/-- Whether a character is part of a word in the given mode. -/
def Mode.isWord (m : Mode) (c : Char) : Bool :=
  if m.unicode then isWordChar c else c.isAlphanum || c == '_'

/-- The characters that a shorthand stands for. -/
def Shorthand.set (m : Mode) : Shorthand → Char → Bool
  | digit => fun c => if m.unicode then CharSet.digit.contains c else c.isDigit
  | blank => fun c => if m.unicode then isBlank c else c.toNat < 128 && isBlank c
  | word => m.isWord

/-- The characters of a named class of the first 128. -/
def plainSet (name : String) (c : Char) : Bool :=
  match name with
  | "alnum" => c.isAlphanum
  | "alpha" => c.isAlpha
  | "ascii" => c.toNat < 128
  | "blank" => c == ' ' || c == '\t'
  | "cntrl" => c.toNat < 32 || c.toNat == 127
  | "digit" => c.isDigit
  | "graph" => isBetween 33 126 c
  | "lower" => c.isLower
  | "print" => isBetween 32 126 c
  | "punct" => isBetween 33 126 c && !c.isAlphanum
  | "space" => c.toNat < 128 && isBlank c
  | "upper" => c.isUpper
  | "word" => c.isAlphanum || c == '_'
  | _ => c.isDigit || isBetween 97 102 c || isBetween 65 70 c

/-- The characters with a property. -/
def Property.set (m : Mode) (p : Property) : Except Failure (Char → Bool) :=
  if !m.unicode then .error { problem := .wideCharacter, span := p.span }
  else
    match Pattern.property p.name p.value with
    | .error problem => .error { problem, span := p.span }
    | .ok set => .ok (negateIf p.negated (m.fold set))

/-- The characters of a class. -/
def CharClass.set (m : Mode) : CharClass → Except Failure (Char → Bool)
  | .literal c => .ok (m.fold (· == c))
  | .range a b => .ok (m.fold fun c => a ≤ c && c ≤ b)
  | .plain name negated => .ok (negateIf negated (m.fold (plainSet name)))
  | .shorthand kind negated => .ok (negateIf negated (kind.set m))
  | .property p => p.set m
  | .nested negated c span => do
    let set ← c.set m
    if negated && !m.unicode then .error { problem := .partialCharacter, span }
    else .ok (negateIf negated (m.fold set))
  | .union items => do
    let sets ← items.mapM (CharClass.set m)
    return fun c => sets.any (· c)
  | .combined operator a b => do
    let a := m.fold (← a.set m)
    let b := m.fold (← b.set m)
    return match operator with
      | .both => fun c => a c && b c
      | .onlyFirst => fun c => a c && !b c
      | .exactlyOne => fun c => a c != b c

/-- Whether an edge is at a place. -/
def Edge.holds (m : Mode) (e : Edge) (before : Option Char) (rest : List Char) : Bool :=
  let wordBefore := before.any m.isWord
  let wordAfter := rest.head?.any m.isWord
  match e with
  | textStart => before.isNone
  | textEnd => rest.isEmpty
  | lineStart =>
    before.isNone || (m.multiLine &&
      (before == some '\n' || (m.crlf && before == some '\r' && rest.head? != some '\n')))
  | lineEnd =>
    rest.isEmpty || (m.multiLine &&
      if m.crlf then
        rest.head? == some '\r' || (rest.head? == some '\n' && before != some '\r')
      else rest.head? == some '\n')
  | word => wordBefore != wordAfter
  | noWord => wordBefore == wordAfter
  | wordStart => !wordBefore && wordAfter
  | wordEnd => wordBefore && !wordAfter
  | wordStartHalf => !wordBefore
  | wordEndHalf => !wordAfter

mutual

/-- The meaning of an expression, and the settings after it. -/
def Expression.meaning (m : Mode) : Expression → Except Failure (Meaning × Mode)
  | .empty => .ok (.empty, m)
  | .flags f => .ok (.empty, m.with f)
  | .literal c _ => .ok (.one (m.fold (· == c)), m)
  | .any span =>
    if m.unicode then
      .ok (.one fun c => m.dotAll || !(c == '\n' || (m.crlf && c == '\r')), m)
    else .error { problem := .partialCharacter, span }
  | .edge e => .ok (.edge (e.holds m), m)
  | .shorthand kind negated span =>
    if negated && !m.unicode then .error { problem := .partialCharacter, span }
    else .ok (.one (negateIf negated (kind.set m)), m)
  | .property p => do
    return (.one (← p.set m), m)
  | .charClass negated c span => do
    let set ← c.set m
    if negated && !m.unicode then .error { problem := .partialCharacter, span }
    else .ok (.one (negateIf negated (m.fold set)), m)
  | .group f e => do
    let (meaning, _) ← e.meaning (m.with f)
    return (meaning, m)
  | .repetition e least most => do
    let (meaning, m) ← e.meaning m
    return (.repetition meaning least most, m)
  | .sequence parts => Expression.meanings m .sequence .empty parts
  | .alternatives branches => Expression.meanings m .either (.one fun _ => false) branches

/-- The meaning of expressions that are put together; settings carry over from each to
the next. -/
def Expression.meanings (m : Mode) (put : Meaning → Meaning → Meaning) (last : Meaning) :
    List Expression → Except Failure (Meaning × Mode)
  | [] => .ok (last, m)
  | e :: rest => do
    let (a, m) ← e.meaning m
    let (b, m) ← Expression.meanings m put last rest
    return (put a b, m)

end

/-- A place in a text: the character before it and the text from there on. -/
abbrev Spot := Option Char × List Char

/-- Adds a place to places, unless it is there. -/
def addSpot (spots : List Spot) (s : Spot) : List Spot :=
  if spots.any fun t => t.2.length == s.2.length then spots else s :: spots

/-- Places, each once. -/
def distinctSpots (spots : List Spot) : List Spot := spots.foldl addSpot []

/-- All places that are reached from some by up to `rounds` steps. -/
def reach (step : Spot → List Spot) (spots : List Spot) : Nat → List Spot
  | 0 => spots
  | rounds + 1 =>
    let more := (spots.flatMap step).foldl addSpot spots
    if more.length = spots.length then spots else reach step more rounds

/-- The places that are reached from some by exactly `n` steps. -/
def walk (step : Spot → List Spot) (spots : List Spot) : Nat → List Spot
  | 0 => spots
  | n + 1 =>
    if spots.isEmpty then [] else walk step (distinctSpots (spots.flatMap step)) n

/-- The places where a match that starts at a place may end. -/
def Meaning.ends : Meaning → Spot → List Spot
  | .empty, s => [s]
  | .one p, (_, c :: rest) => if p c then [(some c, rest)] else []
  | .one _, (_, []) => []
  | .edge p, s => if p s.1 s.2 then [s] else []
  | .sequence a b, s => distinctSpots ((a.ends s).flatMap b.ends)
  | .either a b, s => distinctSpots (a.ends s ++ b.ends s)
  | .repetition m least most, s =>
    reach m.ends (walk m.ends [s] least)
      (match most with
        | some n => n - least
        | none => s.2.length + 1)

/-- Whether a match starts somewhere in a text. -/
def Meaning.occursIn (m : Meaning) (before : Option Char) : List Char → Bool
  | [] => !(m.ends (before, [])).isEmpty
  | c :: rest => !(m.ends (before, c :: rest)).isEmpty || m.occursIn (some c) rest

end StoryMend.Pattern

namespace StoryMend

/-- A pattern that has been compiled. -/
structure Pattern where
  text : String
  /-- Whether the pattern matches somewhere in a string. -/
  occursIn : String → Bool

namespace Pattern

/-- What makes patterns of their texts. -/
abbrev Compiler := String → Except Error Pattern

/-- Reads a pattern and finds its meaning. -/
def compile : Compiler := fun text =>
  match (Expression.read text).bind fun e => e.meaning {} with
  | .ok (meaning, _) => .ok { text, occursIn := fun s => meaning.occursIn none s.toList }
  | .error failure => .error { pattern := text, reason := failure.render text }

end Pattern

end StoryMend
