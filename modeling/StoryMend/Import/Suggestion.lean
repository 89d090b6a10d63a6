import StoryMend.Inventory
import StoryMend.Settings
import StoryMend.Text.Letter
import StoryMend.Text.Line

/-!
The component that an unknown name may stand for: the target of an alias, or else
the first component in the order of the inventory whose name is part of the name
or has it as a part.
-/

namespace StoryMend.Import

open Text

/-- The component that an alias gives for a name, if it is in the inventory. -/
def aliased? (aliases : List Alias) (inv : Inventory) (name : String) : Option String :=
  (aliases.filter fun a => sameUpToCase a.name name).findSome? fun a =>
    (inv.get? a.component).map Component.name

/-- Whether one of two names has the other one as a part, where case does not count; an
empty name is no part. -/
def areAkin (a b : String) : Bool :=
  let a := (lowercase a).toList
  let b := (lowercase b).toList
  !a.isEmpty && !b.isEmpty && (contains a b || contains b a)

/-- The component that a name may stand for. -/
def suggest? (aliases : List Alias) (inv : Inventory) (name : String) : Option String :=
  (aliased? aliases inv name).or (inv.names.find? (areAkin name))

end StoryMend.Import
