import StoryMend.Pattern.Expression
import StoryMend.Text.Letter

/-!
Reading patterns.  Groups and bracketed classes that are still open are kept on
stacks, so that a pattern is read in one run from left to right and the first
problem is the one that is reported.
-/

namespace StoryMend.Pattern

/-- The flag that a letter stands for, set to `value`; `none` if it is set already, or
if there is no such flag. -/
def Flags.set? (f : Flags) (c : Char) (value : Bool) : Option Flags :=
  match c with
  | 'i' => some { f with ignoreCase := some value }
  | 'm' => some { f with multiLine := some value }
  | 's' => some { f with dotAll := some value }
  | 'u' => some { f with unicode := some value }
  | 'R' => some { f with crlf := some value }
  | 'x' => some { f with ignoreBlanks := some value }
  | 'U' => some f
  | _ => none

/-- The state of reading a pattern. -/
structure Reading where
  rest : List Char
  place : Place := {}
  /-- Whether blanks and comments between the parts of a pattern do not count. -/
  ignoreBlanks : Bool := false
  /-- The names of groups so far. -/
  names : List (String × Span) := []

/-- A step of reading. -/
abbrev ReadM := StateT Reading (Except Failure)

namespace ReadM

/-- Reports a problem. -/
def fail {α : Type} (problem : Problem) (start stop : Place) (other : Option Span := none) :
    ReadM α :=
  throw { problem, span := ⟨start, stop⟩, other }

/-- The place of the next character. -/
def place : ReadM Place := return (← get).place

/-- The next character, if there is one. -/
def peek? : ReadM (Option Char) := return (← get).rest.head?

/-- The character after the next one. -/
def peekSecond? : ReadM (Option Char) := return (← get).rest[1]?

/-- Whether nothing is left. -/
def atEnd : ReadM Bool := return (← get).rest.isEmpty

/-- The place after the next character. -/
def placeAfter : ReadM Place := do
  let r ← get
  return match r.rest with
    | [] => r.place
    | c :: _ => r.place.after c

/-- Takes the next character. -/
def bump : ReadM Unit :=
  modify fun r =>
    match r.rest with
    | [] => r
    | c :: rest => { r with rest, place := r.place.after c }

/-- How many characters at the start of a text are blanks and comments. -/
def ignorable (inComment : Bool) : List Char → Nat
  | [] => 0
  | c :: rest =>
    if inComment then 1 + ignorable (c != '\n') rest
    else if Text.isBlank c then 1 + ignorable false rest
    else if c == '#' then 1 + ignorable true rest
    else 0

/-- Takes blanks and comments where they do not count. -/
def bumpBlanks : ReadM Unit := do
  let r ← get
  if r.ignoreBlanks then
    for _ in [0:ignorable false r.rest] do
      bump

/-- Takes the next character and the blanks after it. -/
def next : ReadM Unit := do
  bump
  bumpBlanks

/-- Takes the given characters, if they come next. -/
def bumpIf (start : String) : ReadM Bool := do
  if start.toList.isPrefixOf (← get).rest then
    for _ in start.toList do
      bump
    return true
  else return false

/-- The character after the next one, blanks left out where they do not count. -/
def peekPastBlanks? : ReadM (Option Char) := do
  let r ← get
  let rest := r.rest.drop 1
  return if r.ignoreBlanks then (rest.drop (ignorable false rest)).head? else rest.head?

/-- Takes characters while `p` holds. -/
def takeWhile (p : Char → Bool) : ReadM (List Char) := do
  let mut taken := #[]
  for _ in [0:(← get).rest.length] do
    match ← peek? with
    | some c =>
      if p c then
        taken := taken.push c
        next
      else break
    | none => break
  return taken.toList

/-- The value of a digit to the base sixteen. -/
def hexValue? (c : Char) : Option Nat :=
  if c.isDigit then some (c.toNat - 48)
  else if 'a' ≤ c && c ≤ 'f' then some (c.toNat - 87)
  else if 'A' ≤ c && c ≤ 'F' then some (c.toNat - 55)
  else none

/-- The character with the given number to the base sixteen. -/
def hexChar? (digits : List Char) : Option Char :=
  let n := digits.foldl (fun n c => min (16 * n + (hexValue? c).getD 0) 0x200000) 0
  if n < 0x110000 && !(0xD800 ≤ n && n < 0xE000) then some (Char.ofNat n) else none

/-- Reads a character that is given by its number, after the letter that says so. -/
def readHex (width : Nat) : ReadM Char := do
  next
  let start ← place
  match ← peek? with
  | none => fail .escapeEnd start start
  | some '{' =>
    let inner ← placeAfter
    next
    let digits ← takeWhile fun c => (hexValue? c).isSome
    match ← peek? with
    | none => fail .escapeEnd start (← place)
    | some '}' =>
      let stop ← place
      next
      if digits.isEmpty then fail .hexEmpty start (← place)
      else
        match hexChar? digits with
        | some c => return c
        | none => fail .hexInvalid inner stop
    | some _ => fail .hexDigit (← place) (← placeAfter)
  | some _ =>
    let mut digits := #[]
    for i in [0:width] do
      match ← peek? with
      | none => fail .escapeEnd (← place) (← place)
      | some c =>
        if (hexValue? c).isNone then fail .hexDigit (← place) (← placeAfter)
        else
          digits := digits.push c
          if i + 1 < width then next
    next
    match hexChar? digits.toList with
    | some c => return c
    | none => fail .hexInvalid start (← place)

/-- Splits the name of a property from its value. -/
def splitProperty (s : List Char) : Option (List Char × List Char × Bool) :=
  match (List.range s.length).find? (fun i => (s.drop i).take 2 == ['!', '=']) with
  | some i => some (s.take i, s.drop (i + 2), true)
  | none =>
    match s.findIdx? (· == ':') with
    | some i => some (s.take i, s.drop (i + 1), false)
    | none => (s.findIdx? (· == '=')).map fun i => (s.take i, s.drop (i + 1), false)

/-- Reads a property after the letter that says so. -/
def readProperty (start : Place) (negated : Bool) : ReadM Property := do
  next
  match ← peek? with
  | none => fail .escapeEnd (← place) (← place)
  | some '{' =>
    next
    let name ← takeWhile (· != '}')
    if ← atEnd then fail .escapeEnd (← place) (← place)
    bump
    let span := ⟨start, ← place⟩
    match splitProperty name with
    | none => return { name := String.ofList name, negated, span }
    | some (name, value, differs) =>
      return {
        name := String.ofList name, value := some (String.ofList value)
        negated := negated != differs, span }
  | some c =>
    if c == '\\' then fail .propertyInvalid (← place) (← placeAfter)
    next
    return { name := c.toString, negated, span := ⟨start, ← place⟩ }

/-- Whether a character means something in a pattern. -/
def isMeta (c : Char) : Bool := "\\.+*?()|[]\x7b\x7d^$#&-~".toList.contains c

/-- Whether a backslash may stand before a character that means itself. -/
def isEscapable (c : Char) : Bool :=
  isMeta c || (c.toNat < 128 && !c.isAlphanum && c != '<' && c != '>')

/-- Reads the name of an edge between braces, after `\b`; gives nothing, and takes
nothing, if the braces hold a count. -/
def readEdge? (start : Place) : ReadM (Option Edge) := do
  let before ← get
  let isNameChar := fun c : Char => c.isAlpha || c == '-'
  next
  match ← peek? with
  | none => fail .edgeEnd start (← place)
  | some c =>
    if !isNameChar c then
      set before
      return none
    let first ← place
    let name ← takeWhile isNameChar
    let stop ← place
    if (← peek?) != some '}' then fail .edgeUnclosed before.place stop
    bump
    match String.ofList name with
    | "start" => return some .wordStart
    | "end" => return some .wordEnd
    | "start-half" => return some .wordStartHalf
    | "end-half" => return some .wordEndHalf
    | _ => fail .edgeUnknown first stop

/-- The control character that a letter after a backslash stands for. -/
def control? : Char → Option Char
  | 'a' => some '\x07'
  | 'f' => some '\x0c'
  | 't' => some '\t'
  | 'n' => some '\n'
  | 'r' => some '\r'
  | 'v' => some '\x0b'
  | _ => none

/-- The edge that a letter after a backslash stands for. -/
def edge? : Char → Option Edge
  | 'A' => some .textStart
  | 'z' => some .textEnd
  | 'b' => some .word
  | 'B' => some .noWord
  | '<' => some .wordStart
  | '>' => some .wordEnd
  | _ => none

/-- The class that a letter after a backslash stands for. -/
def shorthand? (c : Char) : Option Shorthand :=
  match c.toLower with
  | 'd' => some .digit
  | 's' => some .blank
  | 'w' => some .word
  | _ => none

/-- Reads what a backslash introduces. -/
def readEscape : ReadM (Expression × Span) := do
  let start ← place
  bump
  match ← peek? with
  | none => fail .escapeEnd start (← place)
  | some c =>
    let done (e : Span → Expression) : ReadM (Expression × Span) := do
      let span := ⟨start, ← place⟩
      return (e span, span)
    if c.isDigit then fail .backreference start (← placeAfter)
    else if c == 'x' || c == 'u' || c == 'U' then
      let x ← readHex (if c == 'x' then 2 else if c == 'u' then 4 else 8)
      done (.literal x)
    else if c == 'p' || c == 'P' then
      let p ← readProperty start (c == 'P')
      done fun _ => .property p
    else
      match shorthand? c with
      | some kind =>
        bump
        done (.shorthand kind c.isUpper)
      | none =>
        bump
        if isEscapable c then done (.literal c)
        else
          match control? c, edge? c with
          | some x, _ => done (.literal x)
          | none, some e =>
            if c == 'b' && (← peek?) == some '{' then
              let e := (← readEdge? start).getD e
              done fun _ => .edge e
            else done fun _ => .edge e
          | none, none => fail .escapeUnknown start (← place)

/-- A bracketed class that is still open. -/
structure ClassLevel where
  negated : Bool
  span : Span
  /-- The items so far, last one first. -/
  items : List CharClass := []
  /-- The class before an operator, and the operator. -/
  pending : Option (ClassOperator × CharClass) := none

/-- The class of an open level. -/
def ClassLevel.toClass (l : ClassLevel) : CharClass :=
  let here := .union l.items.reverse
  match l.pending with
  | some (operator, before) => .combined operator before here
  | none => here

/-- Opens a bracketed class. -/
def openClass : ReadM ClassLevel := do
  let start ← place
  next
  if ← atEnd then fail .classUnclosed start (← place)
  let negated := (← peek?) == some '^'
  if negated then
    next
    if ← atEnd then fail .classUnclosed start (← place)
  let mut items := []
  for _ in [0:(← get).rest.length] do
    if (← peek?) == some '-' then
      items := .literal '-' :: items
      next
      if ← atEnd then fail .classUnclosed start start
    else break
  if items.isEmpty && (← peek?) == some ']' then
    items := [.literal ']']
    next
    if ← atEnd then fail .classUnclosed start (← place)
  return { negated, span := ⟨start, ← place⟩, items }

/-- Classes of the first 128 characters that have a name. -/
def plainNames : List String :=
  ["alnum", "alpha", "ascii", "blank", "cntrl", "digit", "graph", "lower", "print", "punct",
   "space", "upper", "word", "xdigit"]

/-- Reads a class of the first 128 characters by its name; takes nothing if there is
none. -/
def readPlainClass? : ReadM (Option CharClass) := do
  let before ← get
  let rest := before.rest
  match rest with
  | '[' :: ':' :: rest =>
    let (negated, rest) := match rest with
      | '^' :: rest => (true, rest)
      | rest => (false, rest)
    let name := rest.takeWhile (· != ':')
    match rest.drop name.length with
    | ':' :: ']' :: _ =>
      if plainNames.contains (String.ofList name) then
        for _ in [0:name.length + 4 + (if negated then 1 else 0)] do
          bump
        return some (.plain (String.ofList name) negated)
      else return none
    | _ => return none
  | _ => return none

/-- The class of one item between brackets. -/
def toItem (e : Expression) (span : Span) : ReadM CharClass :=
  match e with
  | .literal c _ => return .literal c
  | .shorthand kind negated _ => return .shorthand kind negated
  | .property p => return .property p
  | _ => fail .classEscape span.start span.stop

/-- The character of one end of a range. -/
def toRangeEnd (e : Expression) (span : Span) : ReadM Char :=
  match e with
  | .literal c _ => return c
  | _ => fail .classRangeEnd span.start span.stop

/-- Reads one character or escape between brackets. -/
def readClassItem : ReadM (Expression × Span) := do
  match ← peek? with
  | some '\\' => readEscape
  | c =>
    let start ← place
    bump
    let span := ⟨start, ← place⟩
    return (.literal (c.getD ' ') span, span)

/-- Reads an item or a range between brackets; `unclosed` is the innermost open
bracket. -/
def readClassRange (unclosed : Span) : ReadM CharClass := do
  let (first, span) ← readClassItem
  bumpBlanks
  if ← atEnd then fail .classUnclosed unclosed.start unclosed.stop
  let second ← peekPastBlanks?
  if (← peek?) != some '-' || second == some ']' || second == some '-' then toItem first span
  else
    next
    if ← atEnd then fail .classUnclosed unclosed.start unclosed.stop
    let (last, lastSpan) ← readClassItem
    let a ← toRangeEnd first span
    let b ← toRangeEnd last lastSpan
    if b < a then fail .classRange span.start lastSpan.stop
    return .range a b

/-- The operator that the next two characters spell. -/
def classOperator? : ReadM (Option ClassOperator) := do
  match ← peek?, ← peekSecond? with
  | some '&', some '&' => return some .both
  | some '-', some '-' => return some .onlyFirst
  | some '~', some '~' => return some .exactlyOne
  | _, _ => return none

/-- Reads on in a bracketed class within the given outer ones. -/
def readClassFrom (level : ClassLevel) (outer : List ClassLevel) : Nat → ReadM Expression
  | 0 => fail .classUnclosed level.span.start level.span.stop
  | fuel + 1 => do
    bumpBlanks
    match ← peek? with
    | none => fail .classUnclosed level.span.start level.span.stop
    | some '[' =>
      match ← readPlainClass? with
      | some c => readClassFrom { level with items := c :: level.items } outer fuel
      | none => readClassFrom (← openClass) (level :: outer) fuel
    | some ']' =>
      bump
      let span := ⟨level.span.start, ← place⟩
      match outer with
      | [] => return .charClass level.negated level.toClass span
      | parent :: outer =>
        let nested := .nested level.negated level.toClass span
        readClassFrom { parent with items := nested :: parent.items } outer fuel
    | some _ =>
      match ← classOperator? with
      | some operator =>
        bump
        bump
        readClassFrom { level with items := [], pending := some (operator, level.toClass) } outer
          fuel
      | none =>
        let item ← readClassRange level.span
        readClassFrom { level with items := item :: level.items } outer fuel

/-- Reads a bracketed class. -/
def readClass : ReadM Expression := do
  let length := (← get).rest.length
  readClassFrom (← openClass) [] (length + 1)

/-- Reads a decimal number, with blanks around it or not; `none` if there are no
digits, with the place where they should be. -/
def readDecimal : ReadM (Except Place Nat) := do
  let mut more := true
  for _ in [0:(← get).rest.length] do
    if more && (← peek?).any Text.isBlank then bump else more := false
  let start ← place
  let digits ← takeWhile Char.isDigit
  let stop ← place
  let _ ← takeWhile Text.isBlank
  if digits.isEmpty then return .error start
  let n := digits.foldl (fun n c => min (10 * n + (c.toNat - 48)) UInt32.size) 0
  if n < UInt32.size then return .ok n else fail .decimalInvalid start stop

/-- The count that was read, or the problem that there is none. -/
def theCount : Except Place Nat → ReadM Nat
  | .ok n => return n
  | .error at_ => fail .countEmpty at_ at_

/-- Reads how often something is repeated. -/
def readCount : ReadM (Nat × Option Nat) := do
  let start ← place
  next
  if ← atEnd then fail .countUnclosed start (← place)
  let least ← readDecimal
  if ← atEnd then fail .countUnclosed start (← place)
  let (least, most) ←
    if (← peek?) == some ',' then
      next
      if ← atEnd then fail .countUnclosed start (← place)
      if (← peek?) != some '}' then
        let least ← theCount least
        let most ← theCount (← readDecimal)
        pure (least, some most)
      else pure (← theCount least, none)
    else
      let n ← theCount least
      pure (n, some n)
  if (← peek?) != some '}' then fail .countUnclosed start (← place)
  next
  if (← peek?) == some '?' then bump
  if most.any (· < least) then fail .countInvalid start (← place)
  return (least, most)

/-- Reads flags up to a colon or a closing parenthesis; also tells whether there are
any. -/
def readFlags : ReadM (Flags × Bool) := do
  let mut flags : Flags := {}
  let mut seen : List (Char × Span) := []
  let mut dangling := none
  for _ in [0:(← get).rest.length + 1] do
    match ← peek? with
    | none => fail .flagEnd (← place) (← place)
    | some c =>
      if c == ':' || c == ')' then break
      let span : Span := ⟨← place, ← placeAfter⟩
      let negated := seen.any (·.1 == '-')
      match flags.set? c (!negated) with
      | some f =>
        match seen.find? (·.1 == c) with
        | some (_, earlier) => fail .flagRepeated span.start span.stop (some earlier)
        | none => pure ()
        flags := f
        dangling := none
      | none =>
        if c != '-' then fail .flagUnknown span.start span.stop
        match seen.find? (·.1 == '-') with
        | some (_, earlier) => fail .flagNegatedTwice span.start span.stop (some earlier)
        | none => pure ()
        dangling := some span
      seen := (c, span) :: seen
      bump
      if ← atEnd then fail .flagEnd (← place) (← place)
  match dangling with
  | some span => fail .flagDangling span.start span.stop
  | none => return (flags, !seen.isEmpty)

/-- Whether a character may be part of the name of a group. -/
def isNameChar (first : Bool) (c : Char) : Bool :=
  c == '_' ||
    if first then Text.isAlphanumeric c && !Text.CharSet.number.contains c && !c.isDigit
    else c == '.' || c == '[' || c == ']' || Text.isAlphanumeric c

/-- Reads the name of a group and the bracket after it. -/
def readGroupName : ReadM Unit := do
  let start ← place
  if ← atEnd then fail .nameEnd start start
  let mut name := #[]
  for _ in [0:(← get).rest.length] do
    match ← peek? with
    | some c =>
      if c == '>' then break
      if !isNameChar name.isEmpty c then fail .nameInvalid (← place) (← placeAfter)
      name := name.push c
      bump
    | none => break
  let stop ← place
  if ← atEnd then fail .nameEnd stop stop
  bump
  if name.isEmpty then fail .nameEmpty start start
  let text := String.ofList name.toList
  match (← get).names.find? (·.1 == text) with
  | some (_, earlier) => fail .nameRepeated start stop (some earlier)
  | none => modify fun r => { r with names := (text, ⟨start, stop⟩) :: r.names }

/-- What an opening parenthesis introduces: flags for what follows, or a group with its
flags. -/
inductive Opening where
  | flags (f : Flags)
  | group (f : Flags) (span : Span)

/-- Reads an opening parenthesis and what belongs to it. -/
def readOpening : ReadM Opening := do
  let span : Span := ⟨← place, ← placeAfter⟩
  bump
  bumpBlanks
  for mark in ["?=", "?!", "?<=", "?<!"] do
    if ← bumpIf mark then fail .lookAround span.start (← place)
  let inner ← place
  if ← bumpIf "?P<" then
    readGroupName
    return .group {} span
  if ← bumpIf "?<" then
    readGroupName
    return .group {} span
  if ← bumpIf "?" then
    if ← atEnd then fail .groupUnclosed span.start span.stop
    let (f, given) ← readFlags
    let closes := (← peek?) == some ')'
    bump
    if closes then
      if !given then fail .repeatsNothing inner inner
      return .flags f
    return .group f span
  return .group {} span

/-- A group that is still open, with what stood before it. -/
structure GroupLevel where
  flags : Flags
  span : Span
  ignoreBlanks : Bool
  branches : List Expression
  parts : List Expression

/-- A sequence of parts, the last one first. -/
def toSequence : List Expression → Expression
  | [] => .empty
  | [e] => e
  | parts => .sequence parts.reverse

/-- Alternatives, the last one first. -/
def toAlternatives : List Expression → Expression
  | [e] => e
  | branches => .alternatives branches.reverse

/-- Reads on in a pattern: `branches` are the alternatives before, `parts` the parts of
the one being read, both last one first, and `outer` the open groups. -/
def readFrom (branches parts : List Expression) (outer : List GroupLevel) :
    Nat → ReadM Expression
  | 0 => return .empty
  | fuel + 1 => do
    bumpBlanks
    let start ← place
    match ← peek? with
    | none =>
      match outer with
      | [] => return toAlternatives (toSequence parts :: branches)
      | g :: _ => fail .groupUnclosed g.span.start g.span.stop
    | some '(' =>
      match ← readOpening with
      | .flags f =>
        match f.ignoreBlanks with
        | some v => modify ({ · with ignoreBlanks := v })
        | none => pure ()
        readFrom branches (.flags f :: parts) outer fuel
      | .group f span =>
        let before := (← get).ignoreBlanks
        modify ({ · with ignoreBlanks := f.ignoreBlanks.getD before })
        readFrom [] [] (⟨f, span, before, branches, parts⟩ :: outer) fuel
    | some ')' =>
      match outer with
      | [] => fail .groupUnopened start (← placeAfter)
      | g :: outer =>
        modify ({ · with ignoreBlanks := g.ignoreBlanks })
        bump
        let e := .group g.flags (toAlternatives (toSequence parts :: branches))
        readFrom g.branches (e :: g.parts) outer fuel
    | some '|' =>
      bump
      readFrom (toSequence parts :: branches) [] outer fuel
    | some '[' =>
      let e ← readClass
      readFrom branches (e :: parts) outer fuel
    | some c =>
      if c == '?' || c == '*' || c == '+' || c == '{' then
        match parts with
        | [] => fail .repeatsNothing start start
        | e :: parts =>
          if e.isVoid then fail .repeatsNothing start start
          let (least, most) ←
            if c == '{' then readCount
            else
              bump
              if (← peek?) == some '?' then bump
              pure (if c == '+' then 1 else 0, if c == '?' then some 1 else none)
          readFrom branches (.repetition e least most :: parts) outer fuel
      else
        let e ←
          if c == '\\' then pure (← readEscape).1
          else
            bump
            let span := ⟨start, ← place⟩
            pure <|
              if c == '.' then .any span
              else if c == '^' then .edge .lineStart
              else if c == '$' then .edge .lineEnd
              else .literal c span
        readFrom branches (e :: parts) outer fuel

end ReadM

/-- Reads a pattern. -/
def Expression.read (pattern : String) : Except Failure Expression :=
  let rest := pattern.toList
  (ReadM.readFrom [] [] [] (rest.length + 1)).run' { rest }

end StoryMend.Pattern
