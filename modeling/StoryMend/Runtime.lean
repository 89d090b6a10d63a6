/-!
The rendering runtime that a module with markup has to import.
-/

namespace StoryMend

/-- A rendering runtime: the module to import, and the statement that imports it. -/
structure Runtime where
  moduleName : String
  statement : String
deriving Repr, DecidableEq, Inhabited

namespace Runtime

/-- The runtime of a module, with the usual statement. -/
def ofModule (moduleName : String) : Runtime :=
  { moduleName, statement := s!"import React from '{moduleName}';" }

/-- The runtime that is required unless another one is set. -/
def react : Runtime := ofModule "react"

end Runtime

end StoryMend
