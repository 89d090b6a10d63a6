import StoryMend.Syntax.Scanner
import StoryMend.Syntax.Stack

/-!
The parser.  It follows every reading that the automaton allows, one token at a
time, and after each token unites readings that have met and drops those that
are clearly worse.  A reading that meets a token it has no use for is paused;
when only paused readings are left, the best of them recovers.

Recovery tries to insert one missing token, to return to an earlier state in
which the token fits, and to skip the token.  All three go on as readings of
their own, and their costs decide.
-/

namespace StoryMend.Syntax

/-- A grammar ready for parsing. -/
structure Language where
  automaton : Automaton
  /-- Whether the modules carry type annotations. -/
  typed : Bool

/-- The state of a parse. -/
structure Run where
  language : Language
  text : Array Char
  stack : Stack := Stack.initial
  /-- The best complete tree so far. -/
  finished : Option Subtree := none
  accepted : Nat := 0
  /-- The last token read, with its place. -/
  cached : Option (Nat × Subtree) := none

/-- How promising a reading is. -/
structure Standing where
  cost : Nat
  nodes : Nat
  weight : Int
  inError : Bool

/-- The outcome of comparing two readings. -/
inductive Comparison where
  | takeLeft
  | preferLeft
  | none
  | preferRight
  | takeRight
deriving DecidableEq

/-- How many readings are kept. -/
def maxVersions : Nat := 6

/-- How many more may arise while a token is read. -/
def maxExtraVersions : Nat := 4

/-- How deep recovery looks for an earlier state. -/
def maxRecoveryDepth : Nat := 16

/-- The difference in cost, weighed by progress, that decides between readings. -/
def maxCostDifference : Nat := 18 * Cost.skippedTree

/-- Compares two readings: one outside recovery comes before one inside, then the
lower cost wins, and finally the greater weight. -/
def Standing.compare (a b : Standing) : Comparison :=
  if !a.inError && b.inError then
    if a.cost < b.cost then .takeLeft else .preferLeft
  else if a.inError && !b.inError then
    if b.cost < a.cost then .takeRight else .preferRight
  else if a.cost < b.cost then
    if (b.cost - a.cost) * (1 + a.nodes) > maxCostDifference then .takeLeft else .preferLeft
  else if b.cost < a.cost then
    if (a.cost - b.cost) * (1 + b.nodes) > maxCostDifference then .takeRight else .preferRight
  else if a.weight > b.weight then .preferLeft
  else if b.weight > a.weight then .preferRight
  else .none

/-- A step of the parser. -/
abbrev ParseM := StateM Run

namespace ParseM

/-- The tables at hand. -/
def automaton : ParseM Automaton := return (← get).language.automaton

/-- The stack at hand. -/
def stack : ParseM Stack := return (← get).stack

/-- Changes the stack. -/
def onStack (f : Stack → Stack) : ParseM Unit :=
  StateT.modifyGet fun r =>
    let s := r.stack
    ((), { { r with stack := {} } with stack := f s })

/-- Changes the stack and gives a result. -/
def withStack {α : Type} (f : Stack → α × Stack) : ParseM α :=
  StateT.modifyGet fun r =>
    let s := r.stack
    let (a, s) := f s
    (a, { { r with stack := {} } with stack := s })

/-- How many readings there are. -/
def versionCount : ParseM Nat := return (← stack).heads.size

/-- How promising a reading is. -/
def standing (v : Nat) : ParseM Standing := do
  onStack (·.settle v)
  let s ← stack
  let paused := (s.head v).status.isPaused
  return {
    cost := s.cost v + if paused then Cost.skippedTree else 0
    nodes := s.nodesSinceFault v
    weight := (s.top v).weight
    inError := paused || s.state v == StateId.recovery }

/-- Unites two readings, if they can merge. -/
def merge (v w : Nat) : ParseM Bool :=
  withStack fun s =>
    match s.merge? v w with
    | some s => (true, s)
    | none => (false, s)

/-- Whether a reading like `v` with the given cost would be worse than another one. -/
def betterExists (v : Nat) (inError : Bool) (cost : Nat) : ParseM Bool := do
  if let some t := (← get).finished then
    if t.cost ≤ cost then return true
  onStack (·.settle v)
  let s ← stack
  let here := (s.position v).bytes
  let mine : Standing :=
    { cost, inError, weight := (s.top v).weight, nodes := s.nodesSinceFault v }
  for i in [0:s.heads.size] do
    let s ← stack
    if i != v && (s.head i).status.isActive && (s.position i).bytes ≥ here then
      match mine.compare (← standing i) with
      | .takeRight => return true
      | .preferRight => if (← stack).canMerge i v then return true
      | _ => pure ()
  return false

/-- Reads a token for a reading in the given lexical and scanning states.  When
nothing fits, reading starts over with all tokens admitted; `skippedFrom` is
where text that starts no token began, and `skippedTo` where it ends so far. -/
def readToken (v : Nat) (state : StateId) (start : Extent) :
    (modes : Nat × Nat) → (anyToken : Bool) → (skipped : Option (Extent × Extent)) →
    Cursor → Nat → ParseM Subtree
  | _, _, _, _, 0 => do
    return Subtree.token (← automaton) Symbol.endOfText {} {} state false
  | modes, anyToken, skipped, c, fuel + 1 => do
    let r ← get
    let m := r.language.automaton
    let current := c.position
    let scanned : Option (Symbol × Cursor) :=
      if modes.2 = 0 then none
      else
        let bits := m.scanStates.getD modes.2 0
        match Scanner.scan r.language.typed (fun t => bits.testBit t.index) c.startToken with
        | (none, _) => none
        | (some t, c) =>
          let c := c.finish
          let s := m.scanned.getD t.index 0
          if c.stop.bytes ≤ current.bytes &&
              (anyToken || !r.stack.advancedSinceFault v || m.next state s == state) then none
          else some (s, c)
    match scanned with
    | some (s, c) => return build m skipped s c false
    | none =>
      let (found, c) := Cursor.run m m.tokens modes.1 (c.moveTo current).startToken
      let c := c.finish
      match found with
      | some s =>
        if s = m.wordToken && skipped.isNone then
          let (found, k) := Cursor.run m m.keywords m.keywords.start
            (c.moveTo c.tokenStart).startToken
          match found with
          | some k' =>
            let fits := k.stop.bytes == c.stop.bytes && m.allows state k'
            return build m skipped (if fits then k' else s) c true
          | none => return build m skipped s c false
        else return build m skipped s c false
      | none =>
        if !anyToken then
          readToken v state start (m.lexModes StateId.recovery) true none (c.moveTo start) fuel
        else
          let (first, last) := skipped.getD (c.tokenStart, c.tokenStart)
          if c.position.bytes = last.bytes then
            if c.atEnd then return fault m first last
            else
              let c := c.advance
              readToken v state start modes true (some (first, c.position)) c fuel
          else readToken v state start modes true (some (first, c.position)) c fuel
where
  fault (m : Automaton) (first last : Extent) : Subtree :=
    Subtree.token m Symbol.error (first - start) (last - first) state false
  build (m : Automaton) (skipped : Option (Extent × Extent)) (s : Symbol) (c : Cursor)
      (keyword : Bool) : Subtree :=
    match skipped with
    | some (first, last) => fault m first last
    | none => Subtree.token m s (c.tokenStart - start) (c.stop - c.tokenStart) state keyword

/-- Reads the token at the top of a reading. -/
def lex (v : Nat) (state : StateId) : ParseM Subtree := do
  let r ← get
  let m := r.language.automaton
  let start := r.stack.position v
  let c : Cursor := { text := r.text, position := start }
  readToken v state start (m.lexModes state) (state == StateId.recovery) none c
    (2 * c.remaining + 8)

/-- Whether a token that was read in another state is the one that would be read
here. -/
def canReuse (m : Automaton) (state : StateId) (t : Subtree) (entry : Option Entry) : Bool :=
  let modes := m.lexModes state
  let word := t.symbol == m.wordToken
  if entry.isSome && m.lexModes t.summary.state == modes &&
      (!word || (!t.summary.keyword && t.summary.state == state)) then true
  else if t.size.bytes = 0 && t.symbol != Symbol.endOfText then false
  else modes.2 == 0 && (entry.map (·.reusable)).getD false

/-- Removes the slices that belong to the reading of the first one. -/
private def sameVersion (version : Nat) : List Slice → List Slice × List Slice
  | [] => ([], [])
  | sl :: rest =>
    if sl.version = version then
      let (same, others) := sameVersion version rest
      (sl :: same, others)
    else ([], sl :: rest)

/-- Builds a phrase at the end of every way that was popped.  Ways that ended at one
node give one phrase, the preferred one. -/
private def buildPhrases (v : Nat) (symbol production : Nat) (weight : Int) (halted : Nat) :
    List Slice → Nat → Nat → ParseM Unit
  | [], _, _ => pure ()
  | _, _, 0 => pure ()
  | sl :: rest, removed, fuel + 1 => do
    let m ← automaton
    let (same, others) := sameVersion sl.version rest
    let version := sl.version - removed
    if version > maxVersions + maxExtraVersions + halted then
      onStack (·.remove version)
      buildPhrases v symbol production weight halted others (removed + 1) fuel
    else
      let (children, extras) := Subtree.splitExtras sl.subtrees
      let first := Subtree.phrase m symbol children production
      let (phrase, extras) := same.foldl (fun (phrase, extras) other =>
        let (children, extras') := Subtree.splitExtras other.subtrees
        let candidate := Subtree.phrase m symbol children 0
        if phrase.preferred candidate then
          (Subtree.phrase m symbol children production, extras')
        else (phrase, extras)) (first, extras)
      let next := m.next ((← stack).state version) symbol
      let phrase := phrase.modify fun s => { s with weight := s.weight + weight }
      onStack fun s =>
        extras.foldl (fun s t => s.push version (some t) next) (s.push version (some phrase) next)
      let merged ← (List.range version).anyM fun j => do
        if j == v then return false else merge j version
      buildPhrases v symbol production weight halted others
        (if merged then removed + 1 else removed) fuel

/-- Builds a phrase from the top of a reading; gives the first reading that arose. -/
def reduce (v : Nat) (symbol count : Nat) (weight : Int) (production : Nat) :
    ParseM (Option Nat) := do
  let before ← versionCount
  let slices ← withStack fun s => let (s, sl) := s.popCount v count; (sl, s)
  let halted := ((← stack).heads.filter (·.status.isHalted)).size
  buildPhrases v symbol production weight halted slices.toList 0 (slices.size + 1)
  return if (← versionCount) > before then some before else none

/-- Keeps a complete tree, unless a better one is known. -/
private def keepTree (t : Subtree) : ParseM Unit :=
  modify fun r => { r with
    accepted := r.accepted + 1
    finished := match r.finished with
      | none => some t
      | some old => if old.preferred t then some t else some old }

/-- Joins everything on a reading into a tree.  The last subtree that is not an extra
is the root; what surrounds it becomes part of it. -/
def accept (v : Nat) (lookahead : Subtree) : ParseM Unit := do
  let m ← automaton
  onStack (·.push v (some lookahead) StateId.initial)
  let slices ← withStack fun s => let (s, sl) := s.popAll v; (sl, s)
  for sl in slices do
    let trees := sl.subtrees.toList
    let after := (trees.reverse.takeWhile (·.extra)).reverse
    let upTo := trees.take (trees.length - after.length)
    match upTo.getLast? with
    | none => pure ()
    | some root =>
      let children := upTo.dropLast ++ root.children.toList ++ after
      keepTree (Subtree.phrase m root.symbol children.toArray root.summary.production)
  match slices[0]? with
  | some sl => onStack (·.remove sl.version)
  | none => pure ()
  onStack (·.halt v)

/-- The reductions that a state allows on the given tokens, each shape once, and
whether it can shift one of them. -/
def possibleReductions (m : Automaton) (state : StateId) (symbols : List Symbol) :
    Bool × Array (Symbol × Nat × Int × Nat) :=
  symbols.foldl (fun acc s =>
    match m.entry? state s with
    | none => acc
    | some entry => entry.actions.foldl (fun (shifts, found) a =>
        match a with
        | .shift _ repeats => (shifts || !repeats, found)
        | .recover => (true, found)
        | .reduce symbol count weight production =>
          if count = 0 || found.any (fun r => r.1 == symbol && r.2.1 == count) then
            (shifts, found)
          else (shifts, found.push (symbol, count, weight, production))
        | _ => (shifts, found)) acc)
    (false, #[])

/-- Performs all reductions that are possible below the reading `start`, on the given
token or on any.  Tells whether some reading can shift the token. -/
def reduceAll (start : Nat) (lookahead : Option Symbol) (initial : Nat) :
    Nat → Nat → Bool → Nat → ParseM Bool
  | _, _, can, 0 => return can
  | i, v, can, fuel + 1 => do
    let count ← versionCount
    if v ≥ count then return can
    let merged ← (List.range v).anyM fun j => do
      if j < initial then return false else merge j v
    if merged then reduceAll start lookahead initial (i + 1) v can fuel
    else
      let m ← automaton
      let symbols := match lookahead with
        | some s => [s]
        | none => (List.range m.tokenCount).drop 1
      let (shifts, reductions) := possibleReductions m ((← stack).state v) symbols
      let mut last := none
      for (symbol, n, weight, production) in reductions do
        last ← reduce v symbol n weight production
      match shifts, last with
      | false, some w =>
        if i < maxVersions then
          onStack (·.renumber w v)
          reduceAll start lookahead initial (i + 1) v can fuel
        else
          if lookahead.isSome then onStack (·.remove v)
          reduceAll start lookahead initial (i + 1) (if v = start then count else v + 1) can fuel
      | _, _ =>
        if !shifts && lookahead.isSome then onStack (·.remove v)
        reduceAll start lookahead initial (i + 1) (if v = start then count else v + 1)
          (can || shifts) fuel

/-- Performs all reductions that are possible below a reading. -/
def allReductions (v : Nat) (lookahead : Option Symbol) : ParseM Bool := do
  reduceAll v lookahead (← versionCount) 0 v false 10000

/-- Returns to an earlier state: everything above becomes one stretch of text that
fits no rule. -/
private def returnTo (goal : StateId) : List Slice → Option Nat → ParseM (Option Nat)
  | [], previous => return previous
  | sl :: rest, previous => do
    let m ← automaton
    if some sl.version == previous then returnTo goal rest previous
    else if (← stack).state sl.version != goal then
      onStack (·.halt sl.version)
      returnTo goal rest previous
    else
      let error ← withStack fun s => let (s, t) := s.popError sl.version; (t, s)
      let earlier := (error.map (·.children)).getD #[]
      let (skipped, extras) := Subtree.splitExtras (earlier ++ sl.subtrees)
      onStack fun s =>
        let s :=
          if skipped.isEmpty then s
          else s.push sl.version (some (Subtree.errorPhrase m skipped true)) goal
        extras.foldl (fun s t => s.push sl.version (some t) goal) s
      returnTo goal rest (some sl.version)

/-- Looks for an earlier state in which the token fits and returns to it. -/
private def returnToFitting (v : Nat) (lookahead : Subtree) (versions nodes cost : Nat)
    (position : Extent) : List SummaryEntry → ParseM Bool
  | [] => return false
  | e :: rest => do
    let s ← stack
    let m ← automaton
    let merges := (List.range versions).any fun j =>
      s.state j == e.state && (s.position j).bytes == position.bytes
    if e.state == StateId.recovery || e.position.bytes == position.bytes || merges then
      returnToFitting v lookahead versions nodes cost position rest
    else
      let newCost := cost + e.depth * Cost.skippedTree +
        (position.bytes - e.position.bytes) * Cost.skippedChar +
        (position.rows - e.position.rows) * Cost.skippedLine
      if ← betterExists v false newCost then return false
      else if m.allows e.state lookahead.symbol then
        let depth := if nodes > 0 then e.depth + 1 else e.depth
        let slices ← withStack fun s => let (s, sl) := s.popCount v depth; (sl, s)
        if (← returnTo e.state slices.toList none).isSome then return true
        else returnToFitting v lookahead versions nodes cost position rest
      else returnToFitting v lookahead versions nodes cost position rest

/-- Drops readings from `i` on that do not go on. -/
private def dropInactive (i : Nat) : Nat → ParseM Unit
  | 0 => pure ()
  | fuel + 1 => do
    let s ← stack
    if i ≥ s.heads.size then return ()
    if (s.head i).status.isActive then dropInactive (i + 1) fuel
    else
      onStack (·.remove i)
      dropInactive i fuel

/-- Puts the token among the skipped ones. -/
private def skipToken (v : Nat) (lookahead : Subtree) (nodes : Nat) : ParseM Unit := do
  let m ← automaton
  let anywhere := match (m.entry? StateId.initial lookahead.symbol).bind fun e =>
      e.actions.back? with
    | some .shiftExtra => true
    | _ => false
  let lookahead := if anywhere then lookahead.modify ({ · with extra := true }) else lookahead
  let run := Subtree.phrase m Symbol.skipped #[lookahead] 0
  if nodes = 0 then onStack (·.push v (some run) StateId.recovery)
  else
    let slices ← withStack fun s => let (s, sl) := s.popCount v 1; (sl, s)
    match slices[0]? with
    | none => onStack (·.push v (some run) StateId.recovery)
    | some sl =>
      if slices.size > 1 then
        onStack fun s => { s with heads := s.heads.extract 0 (sl.version + 1) }
      onStack fun s =>
        let s := s.renumber sl.version v
        s.push v (some (Subtree.phrase m Symbol.skipped (sl.subtrees.push run) 0))
          StateId.recovery

/-- Goes on in recovery with one token. -/
def recover (v : Nat) (lookahead : Subtree) : ParseM Unit := do
  let m ← automaton
  let versions ← versionCount
  onStack (·.settle v)
  let s ← stack
  let position := s.position v
  let nodes := s.nodesSinceFault v
  let cost := s.cost v
  let below := ((s.head v).below.getD #[]).toList
  let returned ←
    if lookahead.isError then pure false
    else returnToFitting v lookahead versions nodes cost position below
  dropInactive versions ((← versionCount) + 1)
  if lookahead.symbol = Symbol.endOfText then
    onStack (·.push v (some (Subtree.errorPhrase m #[] false)) StateId.initial)
    accept v lookahead
  else if returned && (← versionCount) > maxVersions then onStack (·.halt v)
  else
    let newCost := cost + Cost.skippedTree + lookahead.total.bytes * Cost.skippedChar +
      lookahead.total.rows * Cost.skippedLine
    if ← betterExists v false newCost then onStack (·.halt v)
    else skipToken v lookahead nodes

/-- Tries to insert one of the tokens `symbols` on top of a reading, so that the
lookahead fits after it.  At the end of the text every continuation counts. -/
private def insertToken (v : Nat) (lookahead : Subtree) : List Symbol → ParseM Bool
  | [] => return false
  | symbol :: rest => do
    let m ← automaton
    let state := (← stack).state v
    let next := m.next state symbol
    if next == 0 || next == state || !m.reducesOn next lookahead.symbol then
      insertToken v lookahead rest
    else
      let w ← withStack fun s =>
        let (s, w) := s.copy v
        (w, s.push w (some (Subtree.inserted m symbol)) next)
      let wanted := if lookahead.symbol = Symbol.endOfText then none else some lookahead.symbol
      if ← allReductions w wanted then return true
      else insertToken v lookahead rest

/-- Marks the place where recovery begins on all readings from `v` on. -/
private def beginRecovery (v first count : Nat) (lookahead : Subtree) (w : Nat) (inserted : Bool) :
    Nat → ParseM Unit
  | 0 => pure ()
  | fuel + 1 => do
    if w ≥ count then return ()
    let m ← automaton
    let inserted ←
      if inserted then pure true
      else insertToken w lookahead ((List.range m.tokenCount).drop 1)
    onStack (·.push w none StateId.recovery)
    beginRecovery v first count lookahead (if w = v then first else w + 1) inserted fuel

/-- Starts recovery on a reading that has no use for the token. -/
def handleFault (v : Nat) (lookahead : Subtree) : ParseM Unit := do
  let first ← versionCount
  let _ ← allReductions v none
  let count ← versionCount
  beginRecovery v first count lookahead v false (count + 2)
  for _ in [first:count] do
    let _ ← merge v first
  onStack (·.recordBelow v maxRecoveryDepth)
  recover v lookahead

/-- What became of the alternatives of an entry. -/
private inductive Outcome where
  /-- The token was taken up, or the reading has ended. -/
  | done
  /-- Phrases were built; the first reading that arose last, if any was new. -/
  | reduced (version : Option Nat)
  | nothing

/-- Follows the actions for a token one by one; what was shifted or accepted ends them. -/
private def followAll (v : Nat) (state : StateId) (lookahead : Subtree) :
    List Action → Outcome → ParseM Outcome
  | [], outcome => return outcome
  | a :: rest, outcome => do
    match a with
    | .shift target repeats =>
      if repeats then followAll v state lookahead rest outcome
      else
        onStack (·.push v (some (lookahead.modify ({ · with extra := false }))) target)
        return .done
    | .shiftExtra =>
      onStack (·.push v (some (lookahead.modify ({ · with extra := true }))) state)
      return .done
    | .reduce symbol count weight production =>
      let w ← reduce v symbol count weight production
      let last := match w, outcome with
        | some w, _ => some w
        | none, .reduced old => old
        | none, _ => none
      followAll v state lookahead rest (.reduced last)
    | .accept =>
      accept v lookahead
      return .done
    | .recover =>
      recover v lookahead
      return .done

/-- Takes a reading to its next token: builds phrases until the token is taken up or
proves unusable. -/
private def useToken (v : Nat) (state : StateId) (lookahead : Subtree) (entry : Option Entry) :
    Nat → ParseM Unit
  | 0 => onStack (·.halt v)
  | fuel + 1 => do
    let m ← automaton
    let actions := ((entry.map (·.actions)).getD #[]).toList
    match ← followAll v state lookahead actions .nothing with
    | .done => return ()
    | .reduced (some w) =>
      onStack (·.renumber w v)
      let state := (← stack).state v
      useToken v state lookahead (m.entry? state lookahead.symbol) fuel
    | .reduced none => onStack (·.halt v)
    | .nothing =>
      let word := m.entry? state m.wordToken
      if lookahead.summary.keyword && lookahead.symbol != m.wordToken && word.isSome then
        let info := m.info m.wordToken
        let lookahead := lookahead.modify fun s =>
          { s with symbol := m.wordToken, visible := info.visible, named := info.named }
        useToken v state lookahead word fuel
      else if state == StateId.recovery then recover v lookahead
      else onStack (·.pause v lookahead)

/-- Advances a reading by one token. -/
def advance (v : Nat) : ParseM Unit := do
  let r ← get
  let m := r.language.automaton
  let state := r.stack.state v
  let position := (r.stack.position v).bytes
  let reused := match r.cached with
    | some (at_, t) =>
      if at_ = position && canReuse m state t (m.entry? state t.symbol) then some t else none
    | none => none
  let lookahead ← match reused with
    | some t => pure t
    | none =>
      let t ← lex v state
      modify ({ · with cached := some (position, t) })
      pure t
  useToken v state lookahead (m.entry? state lookahead.symbol) 100000

/-- Compares the reading `i` with the earlier ones from `j` on; gives the number of
readings that come before the next one to look at. -/
private def compareWithEarlier : Nat → Nat → Standing → Nat → ParseM Nat
  | i, _, _, 0 => return i + 1
  | i, j, mine, fuel + 1 => do
    if j ≥ i then return i + 1
    match (← standing j).compare mine with
    | .takeLeft =>
      onStack (·.remove i)
      return i
    | .preferLeft | .none =>
      if ← merge j i then return i
      else compareWithEarlier i (j + 1) mine fuel
    | .preferRight =>
      if ← merge j i then return i
      else
        onStack (·.swap i j)
        compareWithEarlier i (j + 1) mine fuel
    | .takeRight =>
      onStack (·.remove j)
      compareWithEarlier (i - 1) j mine fuel

/-- Orders the readings and drops the hopeless ones; gives the least cost of a reading
outside recovery. -/
private def orderVersions (i : Nat) (least : Option Nat) : Nat → ParseM (Option Nat)
  | 0 => return least
  | fuel + 1 => do
    let s ← stack
    if i ≥ s.heads.size then return least
    if (s.head i).status.isHalted then
      onStack (·.remove i)
      orderVersions i least fuel
    else
      let mine ← standing i
      let least :=
        if mine.inError then least
        else some (match least with
          | some c => min c mine.cost
          | none => mine.cost)
      let i ← compareWithEarlier i 0 mine (2 * s.heads.size + 2)
      orderVersions i least fuel

/-- Lets the first paused reading recover if nothing goes on before it, and drops the
other paused ones. -/
private def resumePaused (i n : Nat) (running : Bool) (least : Option Nat) :
    Nat → ParseM (Option Nat)
  | 0 => return least
  | fuel + 1 => do
    if i ≥ n then return least
    match ((← stack).head i).status with
    | .paused lookahead =>
      if !running && (← get).accepted < maxVersions then
        let least := (← stack).cost i
        onStack (·.modifyHead i ({ · with status := .active }))
        handleFault i lookahead
        resumePaused (i + 1) n true (some least) fuel
      else
        onStack (·.remove i)
        resumePaused i (n - 1) running least fuel
    | _ => resumePaused (i + 1) n true least fuel

/-- Tidies up after every reading has taken up a token. -/
def condense : ParseM (Option Nat) := do
  let n ← versionCount
  let least ← orderVersions 0 none (n * n + n + 2)
  onStack fun s => { s with heads := s.heads.extract 0 maxVersions }
  let n ← versionCount
  resumePaused 0 n false least (n + 1)

/-- Advances a reading until it has gone beyond the other readings; gives the furthest
place reached. -/
private def advanceBeyond (v : Nat) (last : Nat) : Nat → ParseM Nat
  | 0 => return last
  | fuel + 1 => do
    if !((← stack).head v).status.isActive then return last
    advance v
    let position := ((← stack).position v).bytes
    if position > last || (v > 0 && position == last) then return position
    else advanceBeyond v last fuel

/-- Advances the readings one by one, each up to the place that the one before has reached. -/
private def advanceAll (v last : Nat) : Nat → ParseM Nat
  | 0 => return last
  | fuel + 1 => do
    if v ≥ (← versionCount) then return last
    let last ← advanceBeyond v last 100000
    advanceAll (v + 1) last fuel

/-- Runs the parser; gives up, without a tree, when `fuel` runs out. -/
private def loop (last : Nat) : Nat → ParseM (Option Subtree)
  | 0 => return none
  | fuel + 1 => do
    let last ← advanceAll 0 last 1000
    let running := (← versionCount) != 0
    let least ← condense
    match (← get).finished, least with
    | some t, some c => if t.cost < c then return some t
    | some t, none => return some t
    | none, _ => pure ()
    if running then loop last fuel else return (← get).finished

end ParseM

/-- Parses a text to a concrete tree. -/
def Language.parseSubtree (language : Language) (text : Array Char) : Option Subtree :=
  ((ParseM.loop 0 (100 * text.size + 10000)).run { language, text }).1

end StoryMend.Syntax
