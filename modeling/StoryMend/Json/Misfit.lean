import StoryMend.Json.Value

/-!
Values that are not what they should be.  A misfit says what was found and what
was expected; its message is the same whether the value was read from a text or
was there already.
-/

namespace StoryMend.Json

/-- What was found in place of the expected value. -/
inductive Found where
  | null
  | bool (b : Bool)
  | number (n : Json.Number)
  | string (s : String)
  | list
  | map
deriving Repr, DecidableEq

/-- A way in which a value is not what it should be. -/
inductive Misfit where
  /-- A value of another kind. -/
  | kind (found : Found) (expected : String)
  /-- A value of the right kind that is out of range. -/
  | range (found : Found) (expected : String)
  /-- A list of the wrong length. -/
  | length (n : Nat) (expected : String)
  | missingField (key : String)
  | repeatedField (key : String)
  /-- A name that is none of the expected ones. -/
  | unknownName (name : String) (expected : List String)
deriving Repr, DecidableEq

/-- The number `n` to the base sixteen. -/
def hexText (n : Nat) : String := String.ofList (Nat.toDigits 16 n)

/-- Whether a character shows when it is printed after a quote: controls, blanks other
than the space, unassigned characters and those that only change the one before do
not. -/
def isPrintable (c : Char) : Bool :=
  c == ' ' || (!Text.CharSet.other.contains c && !Text.CharSet.separator.contains c &&
    !Text.CharSet.graphemeExtend.contains c)

/-- A character as messages show it between quotes. -/
def showChar (c : Char) : String :=
  if c == '"' || c == '\\' then String.ofList ['\\', c]
  else if c == '\n' then "\\n"
  else if c == '\r' then "\\r"
  else if c == '\t' then "\\t"
  else if c.toNat = 0 then "\\0"
  else if isPrintable c then c.toString
  else "\\u\x7b" ++ hexText c.toNat ++ "\x7d"

/-- A string as messages show it. -/
def showString (s : String) : String := "\"" ++ String.join (s.toList.map showChar) ++ "\""

/-- What was found, in words. -/
def Found.describe : Found → String
  | null => "null"
  | bool true => "boolean `true`"
  | bool false => "boolean `false`"
  | number (.natural n) => s!"integer `{n}`"
  | number (.negative n) => s!"integer `-{n}`"
  | number (.real x) => s!"floating point `{Number.doubleText.write Number.double x}`"
  | number (.single x) => s!"floating point `{StoryMend.Number.singleText.write StoryMend.Number.single x}`"
  | string s => s!"string {showString s}"
  | list => "sequence"
  | map => "map"

/-- A choice of names, in words. -/
def describeNames (names : List String) : String :=
  let quoted := names.map fun n => s!"`{n}`"
  match quoted with
  | [a] => a
  | [a, b] => s!"{a} or {b}"
  | _ => "one of " ++ String.intercalate ", " quoted

/-- The message about a misfit. -/
def Misfit.message : Misfit → String
  | kind found expected => s!"invalid type: {found.describe}, expected {expected}"
  | range found expected => s!"invalid value: {found.describe}, expected {expected}"
  | length n expected => s!"invalid length {n}, expected {expected}"
  | missingField key => s!"missing field `{key}`"
  | repeatedField key => s!"duplicate field `{key}`"
  | unknownName name [] => s!"unknown variant `{name}`, there are no variants"
  | unknownName name expected => s!"unknown variant `{name}`, expected {describeNames expected}"

/-- What a value shows itself to be. -/
def found : Json → Found
  | .null => .null
  | .bool b => .bool b
  | .number n => .number n
  | .string s => .string s
  | .array _ => .list
  | .object _ => .map

end StoryMend.Json
