import StoryMend.Json.Cursor

/-!
Values that nobody asked for.  They are passed over with no regard to what they
say; only their form is checked, escapes and numbers less strictly than in values
that are read.
-/

namespace StoryMend.Json

/-- Passes over the rest of a string after its quote. -/
def skipString (c : Cursor) : Nat → Except ReadError Cursor
  | 0 => c.fault .endInString
  | fuel + 1 =>
    match c.peek? with
    | none => c.fault .endInString
    | some b =>
      if b = byte '"' then .ok c.advance
      else if b = byte '\\' then
        let c := c.advance
        match c.peek? with
        | none => c.fault .endInString
        | some b =>
          let c := c.advance
          if (simpleEscape? b).isSome then skipString c fuel
          else if b = byte 'u' then
            match readHex c with
            | .error e => .error e
            | .ok (_, c) => skipString c fuel
          else c.fault .invalidEscape
      else if b < 32 then c.fault .controlCharacter
      else skipString c.advance fuel

/-- Passes over an exponent, if there is one. -/
def skipExponent (c : Cursor) : Except ReadError Cursor :=
  if c.peek? = some (byte 'e') ∨ c.peek? = some (byte 'E') then
    let c := c.advance
    let c := if c.peek? = some (byte '-') ∨ c.peek? = some (byte '+') then c.advance else c
    if c.peek?.any isDigit then .ok (readDigits c).2 else c.advance.fault .invalidNumber
  else .ok c

/-- Passes over a number after its sign. -/
def skipNumber (c : Cursor) : Except ReadError Cursor :=
  match c.peek? with
  | none => c.fault .invalidNumber
  | some b =>
    if !isDigit b then c.advance.fault .invalidNumber
    else if b = byte '0' && c.advance.peek?.any isDigit then c.advance.faultAfter .invalidNumber
    else
      let c := if b = byte '0' then c.advance else (readDigits c).2
      if c.peek? = some (byte '.') then
        let (digits, c) := readDigits c.advance
        if digits.isEmpty then c.faultAfter .invalidNumber else skipExponent c
      else skipExponent c

/-- A bracket that is open while a value is passed over. -/
inductive Bracket where
  | list
  | object
deriving Repr, DecidableEq

/-- The fault of a text that ends within brackets. -/
def Bracket.endFault : Bracket → Fault
  | list => .endInList
  | object => .endInObject

/-- The fault of a text in which neither a comma nor the closing bracket follows. -/
def Bracket.expectedFault : Bracket → Fault
  | list => .expectedListEnd
  | object => .expectedObjectEnd

/-- The byte that closes a bracket. -/
def Bracket.closing : Bracket → UInt8
  | list => byte ']'
  | object => byte '}'

/-- Passes over a key and the colon after it. -/
def skipKey (c : Cursor) : Except ReadError Cursor :=
  let c := c.skipBlanks
  match c.peek? with
  | none => c.fault .endInObject
  | some b =>
    if b != byte '"' then c.faultAfter .keyNoString
    else
      match skipString c.advance (c.rest.length + 1) with
      | .error e => .error e
      | .ok c =>
        let c := c.skipBlanks
        match c.peek? with
        | none => c.fault .endInObject
        | some b => if b = byte ':' then .ok c.advance else c.faultAfter .expectedColon

/-- Passes over a value that is neither a list nor an object, or over the opening bracket
of one. -/
def skipScalar (c : Cursor) (b : UInt8) : Except ReadError (Cursor × Option Bracket) :=
  let word (letters : String) := (readWord letters.toList c.advance).map (·, none)
  if b = byte 'n' then word "ull"
  else if b = byte 't' then word "rue"
  else if b = byte 'f' then word "alse"
  else if b = byte '-' then (skipNumber c.advance).map (·, none)
  else if isDigit b then (skipNumber c).map (·, none)
  else if b = byte '"' then (skipString c.advance (c.rest.length + 1)).map (·, none)
  else if b = byte '[' then .ok (c.advance, some .list)
  else if b = byte '{' then .ok (c.advance, some .object)
  else c.faultAfter .expectedValue

mutual

/-- Passes over a value within the given brackets and over all that follows it up to the
end of the outermost bracket. -/
def skipValue (c : Cursor) (open_ : List Bracket) : Nat → Except ReadError Cursor
  | 0 => c.fault .endInValue
  | fuel + 1 =>
    let c := c.skipBlanks
    match c.peek? with
    | none => c.fault .endInValue
    | some b =>
      match skipScalar c b with
      | .error e => .error e
      | .ok (c, some bracket) => skipAfter c false (bracket :: open_) fuel
      | .ok (c, none) => skipAfter c true open_ fuel

/-- Goes on after a value or an opening bracket: closes brackets, and passes over a comma
and the key of the next value. -/
def skipAfter (c : Cursor) (afterValue : Bool) (open_ : List Bracket) :
    Nat → Except ReadError Cursor
  | 0 => c.fault .endInValue
  | fuel + 1 =>
    match open_ with
    | [] => .ok c
    | bracket :: outer =>
      let c := c.skipBlanks
      match c.peek? with
      | none => c.fault bracket.endFault
      | some b =>
        if b = bracket.closing then skipAfter c.advance true outer fuel
        else if afterValue && b != byte ',' then c.faultAfter bracket.expectedFault
        else
          let c := if afterValue then c.advance else c
          match bracket with
          | .list => skipValue c open_ fuel
          | .object =>
            match skipKey c with
            | .error e => .error e
            | .ok c => skipValue c open_ fuel

end

/-- Passes over a value. -/
def ignored (c : Cursor) : Except ReadError Cursor := skipValue c [] (4 * c.rest.length + 4)

end StoryMend.Json
