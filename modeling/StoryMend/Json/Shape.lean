import StoryMend.Json.Misfit

/-!
Shapes of values: what a value has to look like to be read as a setting, a
request or an answer.  `Shape.check` holds a value against a shape and gives it
its regular form, in which a record is an object with all its fields in order.
A record may also be given as the list of its fields.
-/

namespace StoryMend.Json

mutual

/-- What a value has to look like. -/
inductive Shape where
  | text
  | flag
  /-- A natural number below a bound, with the name of its range. -/
  | natural (range : String) (bound : Nat)
  /-- A value or null. -/
  | optional (shape : Shape)
  | list (item : Shape)
  /-- One of some names. -/
  | choice (names : List String)
  | record (name : String) (fields : Fields)

/-- The fields of a record in their order. -/
inductive Fields where
  | done
  /-- A field, with the value it has when it is missing, if it may be. -/
  | field (key : String) (shape : Shape) (default : Option Json) (rest : Fields)

end

namespace Fields

/-- The names of the fields. -/
def keys : Fields → List String
  | .done => []
  | .field key _ _ rest => key :: rest.keys

/-- What each field is when it is missing. -/
def defaults : Fields → List (Option Json)
  | .done => []
  | .field _ _ default rest => default :: rest.defaults

end Fields

/-- A natural number of the machine's width. -/
def Shape.size : Shape := .natural "usize" UInt64.size

/-- What a record is called in messages. -/
def recordName (name : String) : String := s!"struct {name}"

/-- What a record is called in messages about its length. -/
def recordLength (name : String) (n : Nat) : String :=
  if n = 1 then s!"struct {name} with 1 element" else s!"struct {name} with {n} elements"

/-- The regular form of a record: every field with the value that was given, or else with
its default.  The first field that has neither is missing. -/
def fillFields (given : List (String × Json)) :
    List String → List (Option Json) → Except Misfit (List (String × Json))
  | key :: keys, default :: defaults =>
    match (given.lookup key).or default with
    | none => .error (.missingField key)
    | some value =>
      match fillFields given keys defaults with
      | .error e => .error e
      | .ok fields => .ok ((key, value) :: fields)
  | _, _ => .ok []

/-- The regular form of a record that was given as a list: fields that are left out at
the end have their defaults. -/
def fillPositions (name : String) (total : Nat) (at_ : Nat) :
    List String → List (Option Json) → List Json → Except Misfit (List (String × Json))
  | key :: keys, default :: defaults, values =>
    match values.head?.or default with
    | none => .error (.length at_ (recordLength name total))
    | some value =>
      match fillPositions name total (at_ + 1) keys defaults values.tail with
      | .error e => .error e
      | .ok fields => .ok ((key, value) :: fields)
  | _, _, _ => .ok []

/-- Holds a number against a range. -/
def checkNatural (range : String) (bound : Nat) (n : Json.Number) : Except Misfit Json :=
  match n with
  | .natural m => if m < bound then .ok (.nat m) else .error (.range (.number n) range)
  | .negative _ => .error (.range (.number n) range)
  | .real _ | .single _ => .error (.kind (.number n) range)

/-- Holds a name against a choice. -/
def checkName (names : List String) (name : String) : Except Misfit Json :=
  if names.contains name then .ok (.string name) else .error (.unknownName name names)

mutual

/-- Holds a value against a shape and gives it its regular form. -/
def Shape.check : Shape → Json → Except Misfit Json
  | .text, .string s => .ok (.string s)
  | .text, j => .error (.kind j.found "a string")
  | .flag, .bool b => .ok (.bool b)
  | .flag, j => .error (.kind j.found "a boolean")
  | .natural range bound, .number n => checkNatural range bound n
  | .natural range _, j => .error (.kind j.found range)
  | .optional _, .null => .ok .null
  | .optional shape, j => shape.check j
  | .list item, .array items =>
    match items.mapM item.check with
    | .error e => .error e
    | .ok items => .ok (.array items)
  | .list _, j => .error (.kind j.found "a sequence")
  | .choice names, .string s => checkName names s
  | .choice names, .object [(name, value)] =>
    match checkName names name, value with
    | .ok n, .null => .ok n
    | .ok _, value => .error (.kind value.found "unit")
    | .error e, _ => .error e
  | .choice _, .object _ => .error (.range .map "map with a single key")
  | .choice _, j => .error (.kind j.found "string or map")
  | .record name fields, .array items =>
    match fields.checkPositions items with
    | .error e => .error e
    | .ok values =>
      match fillPositions name fields.keys.length 0 fields.keys fields.defaults values with
      | .error e => .error e
      | .ok given =>
        if fields.keys.length < items.length then
          .error (.length items.length "fewer elements in array")
        else .ok (.object given)
  | .record _ fields, .object given =>
    match given.mapM fun (key, value) => (fields.checkField key value).map (key, ·) with
    | .error e => .error e
    | .ok values => (fillFields values fields.keys fields.defaults).map .object
  | .record name _, j => .error (.kind j.found (recordName name))

/-- Holds the items of a list against the fields of a record, as far as both go. -/
def Fields.checkPositions : Fields → List Json → Except Misfit (List Json)
  | .field _ shape _ rest, item :: items =>
    match shape.check item with
    | .error e => .error e
    | .ok value =>
      match rest.checkPositions items with
      | .error e => .error e
      | .ok values => .ok (value :: values)
  | _, _ => .ok []

/-- Holds a value against the field of a record with the given name; a record takes no
interest in other names. -/
def Fields.checkField : Fields → String → Json → Except Misfit Json
  | .done, _, _ => .ok .null
  | .field key shape _ rest, k, value =>
    if k = key then shape.check value else rest.checkField k value

end

end StoryMend.Json
