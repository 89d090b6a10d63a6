import StoryMend.Number.Notation
import StoryMend.Text.Letter

/-!
JSON values and how they are written.  Numbers are natural, negative integers, or
of double or single precision; fields of an object stand in their order.
-/

namespace StoryMend

/-- A number in a JSON text. -/
inductive Json.Number where
  | natural (n : Nat)
  /-- The integer `-n`, for a positive `n`. -/
  | negative (n : Nat)
  | real (x : Number.Binary)
  /-- A number of single precision; such numbers are written but never read. -/
  | single (x : Number.Binary)
deriving Repr, DecidableEq, Inhabited

/-- A JSON value. -/
inductive Json where
  | null
  | bool (b : Bool)
  | number (n : Json.Number)
  | string (s : String)
  | array (items : List Json)
  | object (fields : List (String × Json))
deriving Repr, Inhabited

namespace Json

/-- A natural number as a value. -/
def nat (n : Nat) : Json := .number (.natural n)

/-- A list of strings as a value. -/
def strings (l : List String) : Json := .array (l.map .string)

/-- A value that may be missing. -/
def ofOption {α : Type} (f : α → Json) : Option α → Json
  | none => .null
  | some a => f a

/-- A field that is left out when there is no value. -/
def optional {α : Type} (key : String) (f : α → Json) (a : Option α) : List (String × Json) :=
  (a.map fun a => (key, f a)).toList

/-- The field of an object with the given name. -/
def field? (key : String) : Json → Option Json
  | .object fields => (fields.find? (·.1 == key)).map (·.2)
  | _ => none

/-- The digit of a number below sixteen. -/
def hexDigit (n : Nat) : Char := if n < 10 then Char.ofNat (48 + n) else Char.ofNat (87 + n)

/-- A character as it stands between quotes. -/
def escape (c : Char) : List Char :=
  if c == '"' then ['\\', '"']
  else if c == '\\' then ['\\', '\\']
  else if c.toNat = 8 then ['\\', 'b']
  else if c.toNat = 9 then ['\\', 't']
  else if c.toNat = 10 then ['\\', 'n']
  else if c.toNat = 12 then ['\\', 'f']
  else if c.toNat = 13 then ['\\', 'r']
  else if c.toNat < 32 then
    ['\\', 'u', '0', '0', hexDigit (c.toNat / 16), hexDigit (c.toNat % 16)]
  else [c]

/-- A string between quotes. -/
def quote (s : String) : List Char := ['"'] ++ s.toList.flatMap escape ++ ['"']

/-- Writes a number; what is no finite number is null. -/
def Number.write : Json.Number → List Char
  | .natural n => (toString n).toList
  | .negative n => '-' :: (toString n).toList
  | .real x =>
    if x.isFinite then (StoryMend.Number.doubleText.write StoryMend.Number.double x).toList
    else "null".toList
  | .single x =>
    if x.isFinite then (StoryMend.Number.singleText.write StoryMend.Number.single x).toList
    else "null".toList

mutual

/-- Writes a value without blanks. -/
def write : Json → List Char
  | .null => "null".toList
  | .bool b => (if b then "true" else "false").toList
  | .number n => n.write
  | .string s => quote s
  | .array [] => ['[', ']']
  | .array (item :: items) => '[' :: write item ++ writeItems items
  | .object [] => ['{', '}']
  | .object ((key, value) :: fields) =>
    '{' :: quote key ++ ':' :: write value ++ writeFields fields

/-- Writes the items of an array after the first one. -/
def writeItems : List Json → List Char
  | [] => [']']
  | item :: items => ',' :: write item ++ writeItems items

/-- Writes the fields of an object after the first one. -/
def writeFields : List (String × Json) → List Char
  | [] => ['}']
  | (key, value) :: fields => ',' :: quote key ++ ':' :: write value ++ writeFields fields

end

/-- The text of a value. -/
def text (j : Json) : String := String.ofList j.write

end Json

end StoryMend
