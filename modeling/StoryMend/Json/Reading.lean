import StoryMend.Json.Ignored
import StoryMend.Json.Shape

/-!
Reading a JSON text by a shape.  The text is read once from its start to its
end, so that the first thing that is wrong with it is reported, whether in form
or in what it says.  A value of the wrong kind is reported after it has been
read, or before it if it is a list or an object.
-/

namespace StoryMend.Json

/-- A misfit where the cursor stands. -/
def Cursor.misfit {α : Type} (c : Cursor) (m : Misfit) : Except ReadError α := c.fault (.misfit m)

/-- Reports a value of the wrong kind. -/
def wrongKind {α : Type} (c : Cursor) (expected : String) : Except ReadError α :=
  let report (found : Found) (c : Cursor) : Except ReadError α := c.misfit (.kind found expected)
  match c.peek? with
  | none => c.faultAfter .expectedValue
  | some b =>
    if b = byte 'n' then readWord "ull".toList c.advance >>= report .null
    else if b = byte 't' then readWord "rue".toList c.advance >>= report (.bool true)
    else if b = byte 'f' then readWord "alse".toList c.advance >>= report (.bool false)
    else if b = byte '-' then
      readNumber true c.advance >>= fun (n, c) => report (.number n) c
    else if isDigit b then readNumber false c >>= fun (n, c) => report (.number n) c
    else if b = byte '"' then readString c.advance >>= fun (s, c) => report (.string s) c
    else if b = byte '[' then report .list c
    else if b = byte '{' then report .map c
    else c.faultAfter .expectedValue

/-- Reads what the byte after some blanks calls for. -/
def onByte {α : Type} (c : Cursor) (read : Cursor → UInt8 → Except ReadError α) :
    Except ReadError α :=
  let c := c.skipBlanks
  match c.peek? with
  | none => c.fault .endInValue
  | some b => read c b

/-- Reads a string. -/
def readText (expected : String) : Reader String := fun c =>
  onByte c fun c b => if b = byte '"' then readString c.advance else wrongKind c expected

/-- Reads a truth value. -/
def readFlag : Reader Json := fun c =>
  onByte c fun c b =>
    if b = byte 't' then (readWord "rue".toList c.advance).map (.bool true, ·)
    else if b = byte 'f' then (readWord "alse".toList c.advance).map (.bool false, ·)
    else wrongKind c "a boolean"

/-- Reads a number of a range. -/
def readNatural (range : String) (bound : Nat) : Reader Json := fun c =>
  onByte c fun c b =>
    let read (negative : Bool) (c : Cursor) : Outcome Json :=
      match readNumber negative c with
      | .error e => .error e
      | .ok (n, c) =>
        match checkNatural range bound n with
        | .error m => c.misfit m
        | .ok j => .ok (j, c)
    if b = byte '-' then read true c.advance
    else if isDigit b then read false c
    else wrongKind c range

/-- Reads null. -/
def readNull (c : Cursor) : Except ReadError Cursor :=
  onByte c fun c b =>
    if b = byte 'n' then readWord "ull".toList c.advance else wrongKind c "unit"

/-- Reads a value or null. -/
def readOptional (read : Reader Json) : Reader Json := fun c =>
  let c := c.skipBlanks
  if c.peek? = some (byte 'n') then (readWord "ull".toList c.advance).map (.null, ·) else read c

/-- Reads a colon. -/
def readColon (c : Cursor) : Except ReadError Cursor :=
  let c := c.skipBlanks
  match c.peek? with
  | none => c.fault .endInObject
  | some b => if b = byte ':' then .ok c.advance else c.faultAfter .expectedColon

/-- Reads one of some names. -/
def readName (names : List String) : Outcome String → Outcome Json
  | .error e => .error e
  | .ok (s, c) =>
    match checkName names s with
    | .error m => c.misfit m
    | .ok _ => .ok (.string s, c)

/-- Reads one of some names: a string, or an object that gives the name and null. -/
def readChoice (names : List String) : Reader Json := fun c =>
  onByte c fun c b =>
    if b = byte '"' then readName names (readString c.advance)
    else if b = byte '{' then
      match readText "variant identifier" c.advance with
      | .error e => .error e
      | .ok (s, c) =>
        match checkName names s with
        | .error m => c.misfit m
        | .ok name =>
          match readColon c with
          | .error e => .error e
          | .ok c =>
            match readNull c with
            | .error e => .error (e.within (.key s))
            | .ok c =>
              let c := c.skipBlanks
              match c.peek? with
              | none => c.fault .endInObject
              | some b => if b = byte '}' then .ok (name, c.advance) else c.fault .expectedValue
    else c.faultAfter .expectedValue

/-- Whether another item of a list follows; gives the place where it starts. -/
def nextItem (first : Bool) (c : Cursor) : Outcome Bool :=
  let c := c.skipBlanks
  match c.peek? with
  | none => c.fault .endInList
  | some b =>
    if b = byte ']' then .ok (false, c)
    else if first then .ok (true, c)
    else if b != byte ',' then c.faultAfter .expectedListEnd
    else
      let c := c.advance.skipBlanks
      match c.peek? with
      | none => c.fault .endInValue
      | some b => if b = byte ']' then c.faultAfter .trailingComma else .ok (true, c)

/-- The end of a list: the place after it, or the fault and the place where it shows. -/
def endList (c : Cursor) : Except Fault Unit × Cursor :=
  let c := c.skipBlanks
  match c.peek? with
  | none => (.error .endInList, c)
  | some b =>
    if b = byte ']' then (.ok (), c.advance)
    else if b = byte ',' then
      let c := c.advance.skipBlanks
      (.error (if c.peek? = some (byte ']') then .trailingComma else .trailingText), c)
    else (.error .trailingText, c)

/-- The end of an object: the place after it, or the fault and the place where it
shows. -/
def endObject (c : Cursor) : Except Fault Unit × Cursor :=
  let c := c.skipBlanks
  match c.peek? with
  | none => (.error .endInObject, c)
  | some b =>
    if b = byte '}' then (.ok (), c.advance)
    else (.error (if b = byte ',' then .trailingComma else .trailingText), c)

/-- Closes what has been read: a misfit is reported after the closing bracket, if it is
there. -/
def close (ended : Except Fault Unit × Cursor) (value : Except Misfit Json) : Outcome Json :=
  match value, ended with
  | .error m, (_, c) => c.misfit m
  | .ok j, (.ok _, c) => .ok (j, c)
  | .ok _, (.error f, c) => c.faultAfter f

/-- Reads the items of a list, the one numbered `n` first; `items` are those before it,
last one first. -/
def readItems (read : Reader Json) (n : Nat) (items : List Json) (c : Cursor) :
    Nat → Outcome (List Json)
  | 0 => c.fault .endInList
  | fuel + 1 =>
    match nextItem (n == 0) c with
    | .error e => .error (e.within (.index n))
    | .ok (false, c) => .ok (items.reverse, c)
    | .ok (true, c) =>
      match read c with
      | .error e => .error (e.within (.index n))
      | .ok (item, c) => readItems read (n + 1) (item :: items) c fuel

/-- Reads a list. -/
def readList (read : Reader Json) : Reader Json := fun c =>
  onByte c fun c b =>
    if b != byte '[' then wrongKind c "a sequence"
    else
      match readItems read 0 [] c.advance (c.rest.length + 1) with
      | .error e => .error e
      | .ok (items, c) => close (endList c) (.ok (.array items))

/-- How to read a field of a record, and what it is when it is missing. -/
structure FieldReader where
  key : String
  read : Reader Json
  default : Option Json

/-- Whether another field of an object follows; gives the place of its key. -/
def nextKey (first : Bool) (c : Cursor) : Outcome Bool :=
  let c := c.skipBlanks
  let key (c : Cursor) (b : UInt8) : Outcome Bool :=
    if b = byte '"' then .ok (true, c) else c.faultAfter .keyNoString
  match c.peek? with
  | none => c.fault .endInObject
  | some b =>
    if b = byte '}' then .ok (false, c)
    else if first then key c b
    else if b != byte ',' then c.faultAfter .expectedObjectEnd
    else
      let c := c.advance.skipBlanks
      match c.peek? with
      | none => c.fault .endInValue
      | some b => if b = byte '}' then c.faultAfter .trailingComma else key c b

/-- Reads the value of a field that may be known or not. -/
def readField (fields : List FieldReader) (key : String) (c : Cursor) :
    Outcome (Option (String × Json)) :=
  match readColon c with
  | .error e => .error e
  | .ok c =>
    match fields.find? (·.key == key) with
    | some f => (f.read c).map fun (j, c) => (some (key, j), c)
    | none => (ignored c).map (none, ·)

/-- Reads the fields of an object; `given` are the known ones before them.  A known field
that comes twice is a misfit, with which reading stops. -/
def readFields (fields : List FieldReader) (given : List (String × Json)) (first : Bool)
    (c : Cursor) : Nat → Outcome (Except Misfit (List (String × Json)))
  | 0 => c.fault .endInObject
  | fuel + 1 =>
    match nextKey first c with
    | .error e => .error e
    | .ok (false, c) => .ok (.ok given, c)
    | .ok (true, c) =>
      match readString c.advance with
      | .error e => .error e
      | .ok (key, c) =>
        if (given.lookup key).isSome then .ok (.error (.repeatedField key), c)
        else
          match readField fields key c with
          | .error e => .error (e.within (.key key))
          | .ok (some field, c) => readFields fields (field :: given) false c fuel
          | .ok (none, c) => readFields fields given false c fuel

/-- Reads the fields of a record that is given as a list. -/
def readPositions (name : String) (total n : Nat) (c : Cursor) :
    List FieldReader → Outcome (Except Misfit (List (String × Json)))
  | [] => .ok (.ok [], c)
  | f :: fields =>
    let item : Outcome (Option Json) :=
      match nextItem (n == 0) c with
      | .error e => .error e
      | .ok (false, c) => .ok (none, c)
      | .ok (true, c) => (f.read c).map fun (j, c) => (some j, c)
    match item with
    | .error e => .error (e.within (.index n))
    | .ok (value, c) =>
      match value.or f.default with
      | none => .ok (.error (.length n (recordLength name total)), c)
      | some value =>
        match readPositions name total (n + 1) c fields with
        | .error e => .error e
        | .ok (rest, c) => .ok (rest.map ((f.key, value) :: ·), c)

/-- Reads a record. -/
def readRecord (name : String) (fields : List FieldReader) : Reader Json := fun c =>
  onByte c fun c b =>
    if b = byte '[' then
      match readPositions name fields.length 0 c.advance fields with
      | .error e => .error e
      | .ok (values, c) => close (endList c) (values.map .object)
    else if b = byte '{' then
      match readFields fields [] true c.advance (c.rest.length + 1) with
      | .error e => .error e
      | .ok (given, c) =>
        close (endObject c) <|
          given.bind fun given =>
            (fillFields given (fields.map (·.key)) (fields.map (·.default))).map .object
    else wrongKind c (recordName name)

mutual

/-- The reader of values of a shape. -/
def Shape.reader : Shape → Reader Json
  | .text => fun c => (readText "a string" c).map fun (s, c) => (.string s, c)
  | .flag => readFlag
  | .natural range bound => readNatural range bound
  | .optional shape => readOptional shape.reader
  | .list item => readList item.reader
  | .choice names => readChoice names
  | .record name fields => readRecord name fields.readers

/-- The readers of the fields of a record. -/
def Fields.readers : Fields → List FieldReader
  | .done => []
  | .field key shape default rest => ⟨key, shape.reader, default⟩ :: rest.readers

end

/-- Reads a value of a shape at the start of a text. -/
def Shape.readStart (s : Shape) (bytes : List UInt8) : Outcome Json :=
  s.reader (.ofBytes bytes)

/-- Holds the end of a text against the place after its value. -/
def Cursor.checkEnd (c : Cursor) : Except ReadError Unit :=
  let c := c.skipBlanks
  match c.peek? with
  | none => .ok ()
  | some _ => c.faultAfter .trailingText

/-- Reads a text that holds a value of a shape and nothing else. -/
def Shape.read (s : Shape) (bytes : List UInt8) : Except ReadError Json :=
  match s.readStart bytes with
  | .error e => .error e
  | .ok (j, c) => c.checkEnd.map fun _ => j

/-- Reads a string that holds a value of a shape and nothing else. -/
def Shape.readText (s : Shape) (text : String) : Except ReadError Json :=
  s.read text.toUTF8.toList

end StoryMend.Json
