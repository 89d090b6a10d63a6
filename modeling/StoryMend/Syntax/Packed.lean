import StoryMend.Syntax.Automaton
import StoryMend.Text.Packed

/-!
The written form of an automaton: one sequence of packed numbers.  Increasing
lists are written by their length and their differences.
-/

namespace StoryMend.Syntax.Packed

/-- A reader that takes numbers from the front. -/
abbrev Reader := StateM (Array Nat × Nat)

/-- The next number, `0` past the end. -/
def number : Reader Nat := fun (input, at_) => (input.getD at_ 0, input, at_ + 1)

/-- Reads `n` items. -/
def times {α : Type} (n : Nat) (item : Reader α) : Reader (Array α) := do
  let mut out := Array.mkEmpty n
  for _ in [0:n] do
    out := out.push (← item)
  return out

/-- Reads a counted list of items. -/
def counted {α : Type} (item : Reader α) : Reader (Array α) := do
  times (← number) item

/-- Reads an increasing list. -/
def increasing : Reader (Array Nat) := do
  let n ← number
  let mut out := Array.mkEmpty n
  let mut last := 0
  for _ in [0:n] do
    last := last + (← number)
    out := out.push last
  return out

/-- Reads a signed number: even codes are the non-negative ones. -/
def signed : Reader Int := do
  let n ← number
  return if n % 2 = 0 then Int.ofNat (n / 2) else -(Int.ofNat ((n + 1) / 2))

/-- Reads one action. -/
def action : Reader Action := do
  match ← number with
  | 0 => return .shift (← number) false
  | 1 => return .shift (← number) true
  | 2 => return .shiftExtra
  | 3 => return .reduce (← number) (← number) (← signed) (← number)
  | 4 => return .accept
  | _ => return .recover

/-- Reads the alternatives of one entry. -/
def entry : Reader Entry := do
  let n ← number
  return { actions := ← times (n / 2) action, reusable := n % 2 = 1 }

/-- Reads a lexical state over `classes` classes of characters. -/
def lexState (classes : Nat) : Reader LexState := do
  let accepts ← number
  let onEnd ← number
  let mut steps := Array.replicate classes 0
  for _ in [0:← number] do
    let target ← number
    for c in ← increasing do
      steps := steps.setIfInBounds c (target + 1)
  return {
    accepts := if accepts = 0 then none else some (accepts - 1)
    onEnd := if onEnd = 0 then none else some (onEnd - 1)
    steps }

/-- Reads a lexical automaton. -/
def lexTable (classes : Nat) : Reader LexTable := do
  return { start := ← number, states := ← counted (lexState classes) }

/-- Reads rows that are made of groups, each a set of columns with one value. -/
def rows (width base : Nat) (groups : Array (Nat × Nat)) (sets : Array (Array Nat)) :
    Reader (Array (Array Nat)) :=
  counted do
    let mut row := Array.replicate width 0
    for g in ← increasing do
      let (value, set) := groups.getD g (0, 0)
      for column in sets.getD set #[] do
        row := row.setIfInBounds (column - base) value
    return row

/-- Reads a production over the names of fields. -/
def production (fieldNames : Array String) : Reader Production := do
  let aliases ← counted do
    let a ← number
    return if a = 0 then none else some (a - 1)
  let fields ← counted do
    let name ← number
    let place ← number
    return (place, fieldNames.getD name "")
  return { aliases, fields := fields.toList }

/-- Pairs names with the way they appear. -/
def infos (names : List String) : Reader (Array SymbolInfo) := do
  let mut out := #[]
  for name in names do
    let flags ← number
    out := out.push { name, visible := flags % 2 = 1, named := flags / 2 = 1 }
  return out

/-- Reads an automaton; the names are written apart. -/
def automaton (symbolNames aliasNames fieldNames : List String) : Reader Automaton := do
  let tokenCount ← number
  let wordToken ← number
  let symbols ← infos symbolNames
  let aliases ← times aliasNames.length number
  let aliases := (aliasNames.toArray.zip aliases).map fun (name, flag) =>
    { name, visible := true, named := flag = 1 : SymbolInfo }
  let productions ← counted (production fieldNames.toArray)
  let scanned ← counted number
  let scanStates ← counted number
  let runs ← number
  let mut classStarts := Array.mkEmpty runs
  let mut classOf := Array.mkEmpty runs
  let mut last := 0
  for _ in [0:runs] do
    last := last + (← number)
    classStarts := classStarts.push last
    classOf := classOf.push (← number)
  let classes ← number
  let tokens ← lexTable classes
  let keywords ← lexTable classes
  let entries ← counted entry
  let entrySets ← counted increasing
  let entryGroups ← counted do
    let value ← number
    return (value + 1, ← number)
  let entryRows ← rows tokenCount 0 entryGroups entrySets
  let successorSets ← counted increasing
  let successorGroups ← counted do
    let value ← number
    return (value, ← number)
  let successorRows ← rows (symbols.size - tokenCount) tokenCount successorGroups successorSets
  let states ← counted do
    return {
      lexState := ← number, scanState := ← number,
      entries := ← number, successors := ← number : StateRow }
  return {
    tokenCount, wordToken, symbols, aliases, productions, scanned, scanStates,
    classStarts, classOf, tokens, keywords, entries, entryRows, successorRows, states }

/-- The automaton that a packed text and its names describe. -/
def unpack (symbolNames aliasNames fieldNames lines : List String) : Automaton :=
  ((automaton symbolNames aliasNames fieldNames).run (Text.Packed.numbers lines, 0)).1

end StoryMend.Syntax.Packed
