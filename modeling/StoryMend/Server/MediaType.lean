/-!
Media types as headers name them: a type, a subtype that may end with a suffix after
a plus sign, and parameters.
-/

namespace StoryMend.Server.MediaType

/-- Whether a character may stand in a name. -/
def isToken (c : Char) : Bool := c.isAlphanum || "!#$%&'+-.^_`|~".toList.contains c

/-- A place in the parameters of a media type. -/
inductive Place where
  /-- In the name of a parameter, before its first character or not. -/
  | name (atStart : Bool)
  /-- In the value of a parameter. -/
  | value (atStart : Bool)
  /-- In a value between quotes. -/
  | quoted (atStart : Bool)
  /-- After a value between quotes. -/
  | closed
deriving Repr, DecidableEq

/-- The place after a character, if the character may stand there. -/
def Place.step : Place → Char → Option Place
  | name atStart, c =>
    if atStart && c == ' ' then some (name true)
    else if isToken c then some (name false)
    else if c == '=' && !atStart then some (value true)
    else none
  | value atStart, c =>
    if atStart && c == '"' then some (quoted true)
    else if isToken c then some (value false)
    else if c == ';' && !atStart then some (name true)
    else none
  | quoted atStart, c =>
    if c == '"' && !atStart then some closed
    else if 31 < c.toNat && c.toNat ≠ 127 then some (quoted false)
    else none
  | closed, c => if c == ';' then some (name true) else if c == ' ' then some closed else none

/-- Whether parameters may end at a place. -/
def Place.mayEnd : Place → Bool
  | name atStart => atStart
  | value _ | closed => true
  | quoted _ => false

/-- Whether a text holds well formed parameters. -/
def areParameters (s : List Char) : Bool :=
  match s.foldlM Place.step (.name true) with
  | some place => place.mayEnd
  | none => false

/-- Whether a subtype is or ends with the name of the JSON format. -/
def namesJson (subtype : List Char) : Bool :=
  let name := subtype.map Char.toLower
  let suffix := (name.reverse.takeWhile (· != '+')).reverse
  let start := name.take (name.length - suffix.length - 1)
  if suffix.length = name.length || start.isEmpty then name == "json".toList
  else start == "json".toList || suffix == "json".toList

/-- Whether the value of a header names the JSON format. -/
def isJson (value : String) : Bool :=
  let s := value.toList
  let type := s.takeWhile isToken
  match s.dropWhile isToken with
  | '/' :: rest =>
    let subtype := rest.takeWhile isToken
    type.map Char.toLower == "application".toList && namesJson subtype &&
      match rest.dropWhile isToken with
      | [] => true
      | c :: parameters => (c == ';' || c == ' ') && areParameters parameters
  | _ => false

end StoryMend.Server.MediaType
