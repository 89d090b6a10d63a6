import Std.Data.HashMap.Lemmas
import StoryMend.Component

/-!
Inventories of components: the entries in their order, of each name the first one
only, and an index of the names.  The index holds exactly the places of the
entries, so it never points outside of them.
-/

namespace StoryMend

/-- Components by name, in the order in which they were given. -/
structure Inventory where
  entries : Array Component
  positions : Std.HashMap String Nat
  /-- A name is filed at a place exactly if the entry there has that name. -/
  filed : ∀ name i, positions[name]? = some i ↔ (entries[i]?).map Component.name = some name

namespace Inventory

/-- No components. -/
def empty : Inventory where
  entries := #[]
  positions := ∅
  filed name i := by simp

instance : Inhabited Inventory := ⟨empty⟩

/-- Adds a component, unless there is one of its name. -/
def add (inv : Inventory) (c : Component) : Inventory :=
  if h : inv.positions[c.name]? = none then
    { entries := inv.entries.push c
      positions := inv.positions.insert c.name inv.entries.size
      filed := by
        intro name i
        have old := inv.filed name i
        have fresh : ∀ i, (inv.entries[i]?).map Component.name ≠ some c.name := fun i hi => by
          rw [(inv.filed c.name i).2 hi] at h
          cases h
        rw [Std.HashMap.getElem?_insert, Array.getElem?_push]
        by_cases hn : c.name = name
        · subst hn
          by_cases hi : i = inv.entries.size
          · simp [hi]
          · have ne : ¬inv.entries.size = i := fun e => hi e.symm
            simpa [hi, ne] using fresh i
        · by_cases hi : i = inv.entries.size
          · subst hi
            simp only [beq_iff_eq, hn, ↓reduceIte, Option.map_some, Option.some.injEq, iff_false]
            intro he
            simpa using old.1 he
          · simpa [hi, hn] using old }
  else inv

/-- The inventory of some components; of those with one name the first one counts. -/
def ofList (components : List Component) : Inventory := components.foldl add empty

/-- The components in their order. -/
def toList (inv : Inventory) : List Component := inv.entries.toList

/-- The inventory of components that have one import path. -/
def ofNames (importPath : String) (names : List String) : Inventory :=
  ofList (names.map fun name => { name, importPath })

/-- The names in their order. -/
def names (inv : Inventory) : List String := inv.toList.map Component.name

/-- How many components there are. -/
def size (inv : Inventory) : Nat := inv.entries.size

/-- The component of a name. -/
def get? (inv : Inventory) (name : String) : Option Component :=
  match inv.positions[name]? with
  | some i => inv.entries[i]?
  | none => none

/-- Whether there is a component of a name. -/
def contains (inv : Inventory) (name : String) : Bool := inv.positions.contains name

/-- The index knows exactly the names of the entries. -/
theorem contains_iff_mem_names (inv : Inventory) (name : String) :
    inv.contains name = true ↔ name ∈ inv.names := by
  have hfiled : inv.contains name = true ↔ ∃ i, inv.positions[name]? = some i := by
    rw [contains, Std.HashMap.contains_eq_isSome_getElem?, Option.isSome_iff_exists]
  rw [hfiled]
  simp only [inv.filed, names, toList, List.mem_map, Array.mem_toList_iff,
    Array.mem_iff_getElem?, Option.map_eq_some_iff]
  constructor
  · rintro ⟨i, c, hc, rfl⟩
    exact ⟨c, ⟨i, hc⟩, rfl⟩
  · rintro ⟨c, ⟨i, hc⟩, rfl⟩
    exact ⟨i, c, hc, rfl⟩

/-- How inventories stand in JSON: as the list of their components. -/
def form : Json.Form Inventory where
  shape := .list Component.form.shape
  write inv := .array (inv.toList.map Component.form.write)
  build j := ofList (j.items.map Component.form.build)

end Inventory

end StoryMend
