import StoryMend.Text.Letter

/-!
Requests to the service.
-/

namespace StoryMend.Server

/-- A request to the service. -/
structure Request where
  method : String
  /-- The path with the query, if there is one. -/
  target : String
  headers : List (String × String) := []
  body : List UInt8 := []
deriving Repr, DecidableEq

/-- The value of a header, whose name may be in any letter case. -/
def Request.header? (r : Request) (name : String) : Option String :=
  (r.headers.find? fun h => Text.sameUpToCase h.1 name).map (·.2)

/-- Whether the value of a header is plain text. -/
def isPlainValue (value : String) : Bool :=
  value.toList.all fun c => (32 ≤ c.toNat && c.toNat < 127) || c == '\t'

/-- The path in the target of a request. -/
def Request.path (r : Request) : String :=
  String.ofList (r.target.toList.takeWhile fun c => c != '?' && c != '#')

end StoryMend.Server
