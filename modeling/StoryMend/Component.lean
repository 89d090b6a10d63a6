import StoryMend.Json.Form

/-!
Components that a design system offers, as a discovery run describes them.
-/

namespace StoryMend

/-- What is known of an importable component. -/
structure Component where
  name : String
  importPath : String
  required : Bool := false
  propNames : List String := []
deriving Repr, DecidableEq, Inhabited

namespace Component

/-- How components stand in JSON. -/
def form : Json.Form Component where
  shape := .record "ComponentInfo" <|
    .field "name" .text none <|
    .field "required" .flag (some (.bool false)) <|
    .field "propNames" (.list .text) (some (.array [])) <|
    .field "importPath" .text none .done
  write c := .object [("name", .string c.name), ("required", .bool c.required),
    ("propNames", .strings c.propNames), ("importPath", .string c.importPath)]
  build j :=
    { name := j.textAt "name", importPath := j.textAt "importPath",
      required := j.flagAt "required", propNames := j.textsAt "propNames" }

end Component

end StoryMend
