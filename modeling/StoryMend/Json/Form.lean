import StoryMend.Json.Reading

/-!
How the values of a type stand in JSON: what they have to look like, how they are
written, and what a value of the regular form stands for.
-/

namespace StoryMend.Json

/-- The text in a field of a regular record. -/
def textAt (key : String) (j : Json) : String :=
  match j.field? key with
  | some (.string s) => s
  | _ => ""

/-- The text in a field of a regular record, if there is one. -/
def textAt? (key : String) (j : Json) : Option String :=
  match j.field? key with
  | some (.string s) => some s
  | _ => none

/-- The truth value in a field of a regular record. -/
def flagAt (key : String) (j : Json) : Bool :=
  match j.field? key with
  | some (.bool b) => b
  | _ => false

/-- The natural number in a field of a regular record, if there is one. -/
def naturalAt? (key : String) (j : Json) : Option Nat :=
  match j.field? key with
  | some (.number (.natural n)) => some n
  | _ => none

/-- The natural number in a field of a regular record. -/
def naturalAt (key : String) (j : Json) : Nat := (j.naturalAt? key).getD 0

/-- The items of a list. -/
def items : Json → List Json
  | .array items => items
  | _ => []

/-- The items of the list in a field of a regular record. -/
def itemsAt (key : String) (j : Json) : List Json := ((j.field? key).getD .null).items

/-- The text of a value that is a string. -/
def asText : Json → String
  | .string s => s
  | _ => ""

/-- The texts in the list in a field of a regular record. -/
def textsAt (key : String) (j : Json) : List String := (j.itemsAt key).map asText

/-- How values of a type stand in JSON. -/
structure Form (α : Type) where
  /-- What a value has to look like. -/
  shape : Shape
  /-- How a value is written. -/
  write : α → Json
  /-- What a value of the regular form stands for. -/
  build : Json → α

namespace Form

variable {α : Type}

/-- Reads a value that is there already. -/
def read (f : Form α) (j : Json) : Except Misfit α := (f.shape.check j).map f.build

/-- Reads a value from a text. -/
def readText (f : Form α) (text : String) : Except ReadError α :=
  (f.shape.readText text).map f.build

/-- The form of lists of values. -/
def list (f : Form α) : Form (List α) where
  shape := .list f.shape
  write l := .array (l.map f.write)
  build j := j.items.map f.build

/-- The form of values that may be missing. -/
def optional (f : Form α) : Form (Option α) where
  shape := .optional f.shape
  write a := Json.ofOption f.write a
  build
    | .null => none
    | j => some (f.build j)

/-- The value in a field of a regular record. -/
def inField (f : Form α) (key : String) (j : Json) : α := f.build ((j.field? key).getD .null)

/-- The form of texts. -/
def text : Form String where
  shape := .text
  write := .string
  build := asText

end Form

end StoryMend.Json
