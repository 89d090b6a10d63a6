import StoryMend.Syntax.Automaton

/-!
Subtrees under construction.  A subtree is a token or a phrase over smaller
subtrees; with it are kept the sums that the parser compares readings by: the
cost of the faults inside, the number of visible nodes and the weight that its
productions carry.

Faults cost by what was skipped: a fixed amount for every recovery, and amounts
for every character, line and visible subtree that fits no rule.  An inserted
token costs a fixed amount as well.
-/

namespace StoryMend.Syntax

namespace Cost

/-- Entering or leaving recovery. -/
def recovery : Nat := 500
/-- A token that was inserted. -/
def insertedToken : Nat := 110
/-- A visible subtree that was skipped. -/
def skippedTree : Nat := 100
/-- A byte that was skipped. -/
def skippedChar : Nat := 1
/-- A line break that was skipped. -/
def skippedLine : Nat := 30

end Cost

/-- What is known of a subtree without looking at its children. -/
structure Summary where
  symbol : Symbol
  /-- What precedes the subtree: blanks, mostly. -/
  padding : Extent := {}
  size : Extent := {}
  visible : Bool := false
  named : Bool := false
  /-- Whether the subtree may stand anywhere and counts for no rule. -/
  extra : Bool := false
  /-- Whether the token was inserted. -/
  missing : Bool := false
  /-- Whether the text of the token spells a keyword. -/
  keyword : Bool := false
  production : Nat := 0
  faultCost : Nat := 0
  visibleChildren : Nat := 0
  visibleDescendants : Nat := 0
  weight : Int := 0
  /-- The state in which a token was read. -/
  state : StateId := 0
deriving Inhabited

/-- A token, or a phrase over its children. -/
inductive Subtree where
  | node (summary : Summary) (children : Array Subtree)
deriving Inhabited

namespace Subtree

/-- What is known of a subtree without its children. -/
def summary : Subtree → Summary
  | node s _ => s

/-- The subtrees below the root, in the order of the text. -/
def children : Subtree → Array Subtree
  | node _ c => c

/-- Changes the summary. -/
def modify (f : Summary → Summary) : Subtree → Subtree
  | node s c => node (f s) c

/-- The symbol at the root. -/
def symbol (t : Subtree) : Symbol := t.summary.symbol

/-- Whether a subtree may stand anywhere, as a comment does. -/
def extra (t : Subtree) : Bool := t.summary.extra

/-- The extent of what precedes a subtree. -/
def padding (t : Subtree) : Extent := t.summary.padding

/-- The extent of a subtree itself. -/
def size (t : Subtree) : Extent := t.summary.size

/-- The weight by which readings of equal cost are compared. -/
def weight (t : Subtree) : Int := t.summary.weight

/-- The extent of a subtree with what precedes it. -/
def total (t : Subtree) : Extent := t.padding + t.size

/-- Whether the subtree is text that fits no rule. -/
def isError (t : Subtree) : Bool := t.symbol == Symbol.error

/-- The cost of the faults in a subtree. -/
def cost (t : Subtree) : Nat :=
  if t.summary.missing then Cost.insertedToken + Cost.recovery else t.summary.faultCost

/-- How many nodes a reader of the tree would count; runs of skipped tokens count
as well, so that skipping is progress. -/
def nodeCount (t : Subtree) : Nat :=
  t.summary.visibleDescendants + (if t.summary.visible then 1 else 0) +
    (if t.symbol = Symbol.skipped then 1 else 0)

/-- A token. -/
def token (m : Automaton) (symbol : Symbol) (padding size : Extent) (state : StateId)
    (keyword : Bool) : Subtree :=
  let info := m.info symbol
  node {
    symbol, padding, size, state, keyword
    visible := info.visible
    named := info.named
    extra := symbol == Symbol.endOfText } #[]

/-- A token that the text lacks. -/
def inserted (m : Automaton) (symbol : Symbol) : Subtree :=
  (token m symbol {} {} 0 false).modify ({ · with missing := true })

/-- What one more child adds to the fault cost of its parent. -/
private def childCost (fault : Bool) (child : Subtree) : Nat :=
  let own := if child.symbol = Symbol.skipped then 0 else child.cost
  let skipped :=
    if fault && !child.extra && !(child.isError && child.children.isEmpty) then
      if child.summary.visible then Cost.skippedTree
      else if child.children.isEmpty then 0
      else Cost.skippedTree * child.summary.visibleChildren
    else 0
  own + skipped

/-- Adds one child to the sums of its parent; `place` counts the children that are
not extra. -/
private def addChild (production : Production) (fault : Bool) :
    Summary × Nat × Bool → Subtree → Summary × Nat × Bool
  | (s, place, first), child =>
    let c := child.summary
    let aliased := !c.extra && c.symbol != 0 && ((production.aliases[place]?).join).isSome
    let seen := if aliased || c.visible then 1 else 0
    let visible :=
      if seen = 1 then 1 else if child.children.isEmpty then 0 else c.visibleChildren
    ({ s with
        padding := if first then c.padding else s.padding
        size := if first then c.size else s.size + child.total
        faultCost := s.faultCost + childCost fault child
        weight := s.weight + c.weight
        visibleChildren := s.visibleChildren + visible
        visibleDescendants := s.visibleDescendants + c.visibleDescendants + seen },
      if c.extra then place else place + 1, false)

/-- A phrase over its children. -/
def phrase (m : Automaton) (symbol : Symbol) (children : Array Subtree) (production : Nat) :
    Subtree :=
  let info := m.info symbol
  let fault := symbol.isFault
  let start : Summary :=
    { symbol, production, visible := info.visible, named := info.named }
  let (s, _, _) := children.foldl (addChild (m.productions.getD production {}) fault)
    (start, 0, true)
  let faultCost :=
    if fault then
      s.faultCost + Cost.recovery + Cost.skippedChar * s.size.bytes +
        Cost.skippedLine * s.size.rows
    else s.faultCost
  node { s with faultCost } children

/-- A closed stretch of text that fits no rule. -/
def errorPhrase (m : Automaton) (children : Array Subtree) (extra : Bool) : Subtree :=
  (phrase m Symbol.error children 0).modify ({ · with extra })

/-- Whether two subtrees can stand for each other where readings merge. -/
def equivalent (a b : Subtree) : Bool :=
  a.symbol == b.symbol &&
    ((a.cost > 0 && b.cost > 0) ||
      (a.padding.bytes == b.padding.bytes && a.size.bytes == b.size.bytes &&
        a.children.size == b.children.size && a.extra == b.extra))

/-- Splits off the extras at the end. -/
def splitExtras (ts : Array Subtree) : Array Subtree × Array Subtree :=
  let extras := ts.toList.reverse.takeWhile (·.extra)
  (ts.extract 0 (ts.size - extras.length), extras.reverse.toArray)

/-- Compares pairs of subtrees by symbol, then by number of children, then child by
child, depth first. -/
def compareAll : List (Subtree × Subtree) → Nat → Ordering
  | [], _ => .eq
  | _, 0 => .eq
  | (a, b) :: rest, fuel + 1 =>
    match compare a.symbol b.symbol with
    | .eq =>
      match compare a.children.size b.children.size with
      | .eq => compareAll ((a.children.toList.zip b.children.toList) ++ rest) fuel
      | other => other
    | other => other

/-- Whether the reading `b` is to replace the reading `a` of the same text: fewer
faults win, then the greater weight, then the smaller shape. -/
def preferred (a b : Subtree) : Bool :=
  if b.cost < a.cost then true
  else if a.cost < b.cost then false
  else if b.weight > a.weight then true
  else if a.weight > b.weight then false
  else if a.cost > 0 then true
  else compareAll [(a, b)] (a.summary.visibleDescendants * 1000 + 1000000) == .gt

end Subtree

end StoryMend.Syntax
