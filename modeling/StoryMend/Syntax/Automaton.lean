import StoryMend.Syntax.Extent

/-!
The tables that drive the parser.  A grammar is compiled to an automaton: rows
of actions and successor states over numbered symbols, two lexical automata
over classes of characters, and the sets of context-dependent tokens that each
state admits.  Several actions in one entry are alternatives, all of which are
followed.

Symbol `0` ends the text, the tokens follow, and the phrases of the grammar
come last.  State `0` is the recovery state and state `1` the initial one.
-/

namespace StoryMend.Syntax

/-- A token or phrase of a grammar, by number. -/
abbrev Symbol := Nat

/-- A state of an automaton, by number. -/
abbrev StateId := Nat

namespace Symbol

/-- The token after the last character. -/
def endOfText : Symbol := 0

/-- A stretch of text that fits no rule. -/
def error : Symbol := 65535

/-- A run of skipped tokens that has not been closed yet. -/
def skipped : Symbol := 65534

/-- Whether a symbol stands for text that fits no rule. -/
def isFault (s : Symbol) : Bool := s == error || s == skipped

end Symbol

/-- The recovery state. -/
def StateId.recovery : StateId := 0

/-- The state before the first token. -/
def StateId.initial : StateId := 1

/-- One step that an automaton may take on a token. -/
inductive Action where
  /-- Read the token; a repeating shift only continues a list that a reduction
  continues as well. -/
  | shift (state : StateId) (repeats : Bool)
  /-- Read a token that may stand anywhere. -/
  | shiftExtra
  /-- Build a phrase from the last `count` subtrees. -/
  | reduce (symbol : Symbol) (count : Nat) (weight : Int) (production : Nat)
  | accept
  | recover
deriving Repr, DecidableEq, Inhabited

/-- The alternatives of one state on one token. -/
structure Entry where
  actions : Array Action := #[]
  /-- Whether a token read in another state may be taken over. -/
  reusable : Bool := false
deriving Repr, Inhabited

/-- How a symbol appears in a tree. -/
structure SymbolInfo where
  name : String
  visible : Bool
  named : Bool
deriving Repr, Inhabited

/-- The names that a production gives its children by place. -/
structure Production where
  /-- Other names under which children appear. -/
  aliases : Array (Option Nat) := #[]
  /-- Fields of the children. -/
  fields : List (Nat × String) := []
deriving Repr, Inhabited

/-- A state of a lexical automaton. -/
structure LexState where
  accepts : Option Symbol := none
  /-- The state that reads the end of the text. -/
  onEnd : Option Nat := none
  /-- By character class: `0` for no step, else the next state, doubled, plus one
  for a character that belongs to the token, plus one. -/
  steps : Array Nat := #[]
deriving Repr, Inhabited

/-- A lexical automaton and its first state. -/
structure LexTable where
  start : Nat := 0
  states : Array LexState := #[]
deriving Repr, Inhabited

/-- What the parser knows of one state. -/
structure StateRow where
  lexState : Nat := 0
  scanState : Nat := 0
  entries : Nat := 0
  successors : Nat := 0
deriving Repr, Inhabited

/-- A compiled grammar. -/
structure Automaton where
  tokenCount : Nat
  /-- The token of plain words, which keywords give way to. -/
  wordToken : Symbol
  symbols : Array SymbolInfo
  aliases : Array SymbolInfo
  productions : Array Production
  /-- The symbols of the context-dependent tokens. -/
  scanned : Array Symbol
  /-- Sets of context-dependent tokens, as bits. -/
  scanStates : Array Nat
  /-- Where each run of characters of one class begins. -/
  classStarts : Array Nat
  classOf : Array Nat
  tokens : LexTable
  keywords : LexTable
  entries : Array Entry
  /-- By row and token: `0` for no entry, else the number of the entry plus one. -/
  entryRows : Array (Array Nat)
  /-- By row and phrase: the next state, `0` for none. -/
  successorRows : Array (Array Nat)
  states : Array StateRow
deriving Inhabited

namespace Automaton

/-- How a symbol appears in a tree, also for text that fits no rule. -/
def info (m : Automaton) (s : Symbol) : SymbolInfo :=
  if s = Symbol.error then ⟨"ERROR", true, true⟩
  else if s = Symbol.skipped then ⟨"_ERROR", false, false⟩
  else m.symbols.getD s default

/-- What a state does on a token. -/
def entry? (m : Automaton) (state : StateId) (s : Symbol) : Option Entry :=
  let row := m.entryRows.getD (m.states.getD state default).entries #[]
  match row.getD s 0 with
  | 0 => none
  | n + 1 => m.entries[n]?

/-- The state after a phrase has been built in `state`. -/
def successor (m : Automaton) (state : StateId) (s : Symbol) : StateId :=
  (m.successorRows.getD (m.states.getD state default).successors #[]).getD (s - m.tokenCount) 0

/-- Whether a state allows a symbol at all. -/
def allows (m : Automaton) (state : StateId) (s : Symbol) : Bool :=
  if s < m.tokenCount then (m.entry? state s).isSome else m.successor state s != 0

/-- The state after a symbol, `0` if it is not read in `state`.  Of several
alternatives the last is the shift. -/
def next (m : Automaton) (state : StateId) (s : Symbol) : StateId :=
  if s.isFault then 0
  else if s < m.tokenCount then
    match (m.entry? state s).bind fun e => e.actions.back? with
    | some (.shift target _) => target
    | some .shiftExtra => state
    | _ => 0
  else m.successor state s

/-- Whether the first alternative of a state on a token builds a phrase. -/
def reducesOn (m : Automaton) (state : StateId) (s : Symbol) : Bool :=
  match m.entry? state s with
  | none => false
  | some entry =>
    match entry.actions.toList with
    | .reduce .. :: _ => true
    | _ => false

/-- The lexical and scanning states in which a parser state reads its token. -/
def lexModes (m : Automaton) (state : StateId) : Nat × Nat :=
  let row := m.states.getD state default
  (row.lexState, row.scanState)

/-- The class of a character, found among the starts of the runs: `lo` starts no
later than the character and `hi` later. -/
def classFrom (m : Automaton) (code : Nat) (lo hi : Nat) : Nat → Nat
  | 0 => m.classOf.getD lo 0
  | fuel + 1 =>
    if lo + 1 ≥ hi then m.classOf.getD lo 0
    else
      let mid := (lo + hi) / 2
      if m.classStarts.getD mid 0 ≤ code then m.classFrom code mid hi fuel
      else m.classFrom code lo mid fuel

/-- The class of a character. -/
def charClass (m : Automaton) (c : Char) : Nat :=
  m.classFrom c.toNat 0 m.classStarts.size 32

end Automaton

end StoryMend.Syntax
