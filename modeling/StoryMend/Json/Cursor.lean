import StoryMend.Json.Misfit
import StoryMend.Number.Read

/-!
Reading a JSON text byte by byte.  The cursor counts lines from one and columns
by the bytes that have been read of a line; a fault is reported either where the
cursor stands or after the byte that it looks at.
-/

namespace StoryMend.Json

/-- What is wrong with a JSON text. -/
inductive Fault where
  | endInList
  | endInObject
  | endInString
  | endInValue
  | expectedColon
  | expectedListEnd
  | expectedObjectEnd
  | expectedWord
  | expectedValue
  | invalidEscape
  | invalidNumber
  | numberTooLarge
  | invalidCodePoint
  | controlCharacter
  | keyNoString
  | loneSurrogate
  | endOfEscape
  | trailingComma
  | trailingText
  /-- The text is well formed so far, but not what it should say. -/
  | misfit (m : Misfit)
deriving Repr, DecidableEq

namespace Fault

/-- The message about a fault. -/
def message : Fault → String
  | endInList => "EOF while parsing a list"
  | endInObject => "EOF while parsing an object"
  | endInString => "EOF while parsing a string"
  | endInValue => "EOF while parsing a value"
  | expectedColon => "expected `:`"
  | expectedListEnd => "expected `,` or `]`"
  | expectedObjectEnd => "expected `,` or `\x7d`"
  | expectedWord => "expected ident"
  | expectedValue => "expected value"
  | invalidEscape => "invalid escape"
  | invalidNumber => "invalid number"
  | numberTooLarge => "number out of range"
  | invalidCodePoint => "invalid unicode code point"
  | controlCharacter => "control character (\\u0000-\\u001F) found while parsing a string"
  | keyNoString => "key must be a string"
  | loneSurrogate => "lone leading surrogate in hex escape"
  | endOfEscape => "unexpected end of hex escape"
  | trailingComma => "trailing comma"
  | trailingText => "trailing characters"
  | misfit m => m.message

/-- Whether the text is well formed and only says the wrong thing. -/
def isMisfit : Fault → Bool
  | misfit _ => true
  | _ => false

end Fault

/-- A step on the way from a value to a value within it. -/
inductive Step where
  | index (n : Nat)
  | key (name : String)
deriving Repr, DecidableEq

/-- A way from a value to a value within it, in words. -/
def describePath : List Step → String
  | [] => ""
  | .index n :: rest => s!"[{n}]" ++ describeRest rest
  | .key name :: rest => name ++ describeRest rest
where
  describeRest : List Step → String
    | [] => ""
    | .index n :: rest => s!"[{n}]" ++ describeRest rest
    | .key name :: rest => "." ++ name ++ describeRest rest

/-- A fault with its place and the way to the value in which it was found. -/
structure ReadError where
  fault : Fault
  line : Nat
  column : Nat
  path : List Step := []
deriving Repr, DecidableEq

namespace ReadError

/-- The message about a fault, with its place. -/
def message (e : ReadError) : String :=
  s!"{e.fault.message} at line {e.line} column {e.column}"

/-- The message about a fault, with its place and the way to it. -/
def messageWithPath (e : ReadError) : String :=
  if e.path.isEmpty then e.message else s!"{describePath e.path}: {e.message}"

/-- The error as seen from a value around the one in which it was found. -/
def within (e : ReadError) (step : Step) : ReadError := { e with path := step :: e.path }

end ReadError

/-- A place in a JSON text. -/
structure Cursor where
  rest : List UInt8
  line : Nat := 1
  column : Nat := 0
deriving Repr, DecidableEq

/-- What comes of reading: a result and the place after it, or an error. -/
abbrev Outcome (α : Type) := Except ReadError (α × Cursor)

/-- A reader of values. -/
abbrev Reader (α : Type) := Cursor → Outcome α

/-- The byte of a character of the first 128. -/
def byte (c : Char) : UInt8 := c.toNat.toUInt8

namespace Cursor

/-- The start of a text. -/
def ofBytes (bytes : List UInt8) : Cursor := { rest := bytes }

/-- The byte that comes next. -/
def peek? (c : Cursor) : Option UInt8 := c.rest.head?

/-- The place after the next byte. -/
def advance (c : Cursor) : Cursor :=
  match c.rest with
  | [] => c
  | b :: rest =>
    if b = byte '\n' then { rest, line := c.line + 1, column := 0 }
    else { rest, line := c.line, column := c.column + 1 }

/-- The place `n` bytes further. -/
def advanceBy (c : Cursor) : Nat → Cursor
  | 0 => c
  | n + 1 => c.advance.advanceBy n

/-- A fault where the cursor stands. -/
def fault {α : Type} (c : Cursor) (f : Fault) : Except ReadError α :=
  .error { fault := f, line := c.line, column := c.column }

/-- A fault after the byte that comes next. -/
def faultAfter {α : Type} (c : Cursor) (f : Fault) : Except ReadError α := c.advance.fault f

/-- Whether a byte is a blank of JSON. -/
def isBlank (b : UInt8) : Bool :=
  b == byte ' ' || b == byte '\n' || b == byte '\t' || b == byte '\r'

/-- The place after the blanks that come next. -/
def skipBlanks (c : Cursor) : Cursor := c.advanceBy (c.rest.takeWhile isBlank).length

end Cursor

/-- Whether a byte is a digit. -/
def isDigit (b : UInt8) : Bool := byte '0' ≤ b && b ≤ byte '9'

/-- The value of a digit to the base sixteen. -/
def hexValue? (b : UInt8) : Option Nat :=
  if isDigit b then some (b.toNat - 48)
  else if byte 'a' ≤ b && b ≤ byte 'f' then some (b.toNat - 87)
  else if byte 'A' ≤ b && b ≤ byte 'F' then some (b.toNat - 55)
  else none

/-- Reads the letters of a word whose first letter has been read. -/
def readWord : List Char → Cursor → Except ReadError Cursor
  | [], c => .ok c
  | x :: word, c =>
    match c.peek? with
    | none => c.fault .endInValue
    | some b => if b = byte x then readWord word c.advance else c.advance.fault .expectedWord

/-- Reads four digits to the base sixteen. -/
def readHex (c : Cursor) : Outcome Nat :=
  match c.rest with
  | a :: b :: d :: e :: _ =>
    let c := c.advanceBy 4
    match [a, b, d, e].mapM hexValue? with
    | some digits => .ok (digits.foldl (fun n d => 16 * n + d) 0, c)
    | none => c.fault .invalidEscape
  | rest => (c.advanceBy rest.length).fault .endInString

/-- Reads what follows the first four digits of an escaped code: the second half of a
pair, where the digits are the first half of one. -/
def readPair (n : Nat) (c : Cursor) : Outcome Char :=
  if 0xDC00 ≤ n ∧ n ≤ 0xDFFF then c.fault .loneSurrogate
  else if n < 0xD800 ∨ 0xDBFF < n then .ok (Char.ofNat n, c)
  else
    match c.peek? with
    | none => c.fault .endInString
    | some b =>
      if b != byte '\\' then c.advance.fault .endOfEscape
      else
        let c := c.advance
        match c.peek? with
        | none => c.fault .endInString
        | some b =>
          if b != byte 'u' then c.advance.fault .endOfEscape
          else
            match readHex c.advance with
            | .error e => .error e
            | .ok (m, c) =>
              if m < 0xDC00 ∨ 0xDFFF < m then c.fault .loneSurrogate
              else .ok (Char.ofNat ((n - 0xD800) * 1024 + (m - 0xDC00) + 0x10000), c)

/-- The character that a letter after a backslash stands for. -/
def simpleEscape? (b : UInt8) : Option Char :=
  if b = byte '"' then some '"'
  else if b = byte '\\' then some '\\'
  else if b = byte '/' then some '/'
  else if b = byte 'b' then some '\x08'
  else if b = byte 'f' then some '\x0c'
  else if b = byte 'n' then some '\n'
  else if b = byte 'r' then some '\r'
  else if b = byte 't' then some '\t'
  else none

/-- Reads an escape after its backslash. -/
def readEscape (c : Cursor) : Outcome Char :=
  match c.peek? with
  | none => c.fault .endInString
  | some b =>
    let c := c.advance
    match simpleEscape? b with
    | some x => .ok (x, c)
    | none =>
      if b = byte 'u' then
        match readHex c with
        | .error e => .error e
        | .ok (n, c) => readPair n c
      else c.fault .invalidEscape

/-- Reads a string from after its quote up to the quote that ends it; `read` holds the
bytes so far, last one first. -/
def readStringFrom (read : List UInt8) (c : Cursor) : Nat → Outcome (List UInt8)
  | 0 => c.fault .endInString
  | fuel + 1 =>
    match c.peek? with
    | none => c.fault .endInString
    | some b =>
      if b = byte '"' then .ok (read.reverse, c)
      else if b = byte '\\' then
        match readEscape c.advance with
        | .error e => .error e
        | .ok (x, c) => readStringFrom ((String.utf8EncodeChar x).reverse ++ read) c fuel
      else if b < 32 then c.faultAfter .controlCharacter
      else readStringFrom (b :: read) c.advance fuel

/-- Reads a string from after its quote on. -/
def readString (c : Cursor) : Outcome String :=
  match readStringFrom [] c (c.rest.length + 1) with
  | .error e => .error e
  | .ok (bytes, c) =>
    match String.fromUTF8? bytes.toByteArray with
    | some s => .ok (s, c.advance)
    | none => c.fault .invalidCodePoint

/-- The digits that come next, and the place after them. -/
def readDigits (c : Cursor) : List UInt8 × Cursor :=
  let digits := c.rest.takeWhile isDigit
  (digits, c.advanceBy digits.length)

/-- The bound of exponents: they have 32 bits. -/
def maxExponent : Nat := Nat.pow 2 31

/-- The value of digits after the value `n`, as far as it stays below 64 bits, and the digits
that are left. -/
def takeDigits (n : Nat) : List UInt8 → Nat × List UInt8
  | [] => (n, [])
  | b :: rest =>
    let next := 10 * n + (b.toNat - 48)
    if next < UInt64.size then takeDigits next rest else (n, b :: rest)

/-- The number nearest to a power of ten, as a quotient. -/
def powerOfTen (n : Nat) : Nat × Nat :=
  match StoryMend.Number.double.ofNat (Nat.pow 10 n) with
  | .finite _ m e => StoryMend.Number.scaled m 2 e
  | _ => (0, 1)

/-- The exponent of the greatest power of ten that is a number. -/
def maxPower : Nat := 308

/-- A number times a power of ten, with one rounding. -/
def timesPower (x : StoryMend.Number.Binary) (n : Nat) : StoryMend.Number.Binary :=
  let (num, den) := powerOfTen n
  StoryMend.Number.double.scale num den x

/-- A number divided by a power of ten, with one rounding. -/
def overPower (x : StoryMend.Number.Binary) (n : Nat) : StoryMend.Number.Binary :=
  let (num, den) := powerOfTen n
  StoryMend.Number.double.scale den num x

/-- A number divided by the greatest power of ten as often as is said, unless nothing is left
of it before. -/
def overMaxPower (x : StoryMend.Number.Binary) : Nat → StoryMend.Number.Binary
  | 0 => x
  | times + 1 => if x.isZero then x else overMaxPower (overPower x maxPower) times

/-- The number of double precision with a significand and an exponent, unless it is too large.
It is rounded at every step, so that it need not be the nearest one. -/
def ofParts? (negative : Bool) (significand : Nat) (exponent : Int) :
    Option StoryMend.Number.Binary :=
  let x := StoryMend.Number.double.round negative significand 1
  if exponent < 0 then
    let times := (exponent.natAbs - 1) / maxPower
    some (overPower (overMaxPower x times) (exponent.natAbs - times * maxPower))
  else if exponent ≤ maxPower then
    some (timesPower x exponent.toNat) |>.filter (·.isFinite)
  else if x.isZero then some x
  else none

/-- Reads the digits before the point: a zero, or digits that start with none. -/
def readWhole (c : Cursor) : Outcome (List UInt8) :=
  match c.peek? with
  | none => c.fault .endInValue
  | some b =>
    if b = byte '0' then
      let c := c.advance
      if c.peek?.any isDigit then c.faultAfter .invalidNumber else .ok ([b], c)
    else if isDigit b then .ok (readDigits c)
    else c.advance.fault .invalidNumber

/-- Reads the digits after the point, if there is one. -/
def readFraction (c : Cursor) : Outcome (Option (List UInt8)) :=
  if c.peek? = some (byte '.') then
    let (digits, c) := readDigits c.advance
    if digits.isEmpty then
      if c.peek?.isNone then c.fault .endInValue else c.faultAfter .invalidNumber
    else .ok (some digits, c)
  else .ok (none, c)

/-- The value of the digits of an exponent after the value `n` of `read` digits, or how many
digits it takes to make it too large for 32 bits. -/
def exponentValue (n read : Nat) : List UInt8 → Except Nat Nat
  | [] => .ok n
  | b :: rest =>
    let next := 10 * n + (b.toNat - 48)
    if next < maxExponent then exponentValue next (read + 1) rest else .error (read + 1)

/-- Reads an exponent of a number with the given significand, if there is one. -/
def readExponent (significand : Nat) (c : Cursor) : Outcome (Option Int) :=
  if c.peek? = some (byte 'e') ∨ c.peek? = some (byte 'E') then
    let c := c.advance
    let negative := c.peek? = some (byte '-')
    let c := if negative ∨ c.peek? = some (byte '+') then c.advance else c
    match c.peek? with
    | none => c.fault .endInValue
    | some b =>
      if isDigit b then
        let (digits, after) := readDigits c
        match exponentValue 0 0 digits with
        | .ok n => .ok (some (if negative then -n else n), after)
        | .error count =>
          -- Zero stays zero, and so does what is too small.
          if negative || significand = 0 then .ok (some (-maxExponent), after)
          else (c.advanceBy count).fault .numberTooLarge
      else c.advance.fault .invalidNumber
  else .ok (none, c)

/-- Reads a number from after its sign on.  An integer that is too large for 64 bits is
read as a number of double precision, as are those with a point or an exponent; digits
beyond the first 64 bits are dropped. -/
def readNumber (negative : Bool) (c : Cursor) : Outcome Json.Number :=
  match readWhole c with
  | .error e => .error e
  | .ok (whole, c) =>
    match readFraction c with
    | .error e => .error e
    | .ok (fraction, c) =>
      let (n, more) := takeDigits 0 whole
      let (significand, dropped) := takeDigits n (fraction.getD [])
      match readExponent significand c with
      | .error e => .error e
      | .ok (exponent, c) =>
        let isInteger := fraction.isNone && exponent.isNone && more.isEmpty
        if isInteger && !negative then .ok (.natural n, c)
        else if isInteger && 0 < n && n ≤ UInt64.size / 2 then .ok (.negative n, c)
        else
          -- Digits that are dropped before the point count for the exponent.
          let point : Int := more.length - ((fraction.getD []).length - dropped.length)
          match ofParts? negative significand (point + exponent.getD 0) with
          | some x => .ok (.real x, c)
          | none => c.fault .numberTooLarge

end StoryMend.Json
