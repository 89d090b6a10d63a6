import StoryMend.Syntax.Subtree

/-!
The stack of a parser that follows several readings at once.  Its nodes form a
graph: readings share what they have in common, and a node with several links
is a place where readings have met again.  Each head is the top of one reading.

Nodes live in one array and are named by their index, so a head or a link that
points to a node sees every link that the node gains later.
-/

namespace StoryMend.Syntax

/-- The name of a node. -/
abbrev NodeId := Nat

/-- A way down: the subtree that was pushed, and the node below it.  No subtree
marks the place where recovery began. -/
structure Link where
  target : NodeId
  subtree : Option Subtree
deriving Inhabited

/-- A node of the stack, with the sums over the best reading that leads to it. -/
structure StackNode where
  state : StateId
  position : Extent := {}
  links : Array Link := #[]
  cost : Nat := 0
  nodeCount : Nat := 0
  weight : Int := 0
deriving Inhabited

/-- A state below a head, with the number of subtrees above it. -/
structure SummaryEntry where
  position : Extent
  depth : Nat
  state : StateId
deriving Inhabited

/-- Whether a reading goes on. -/
inductive HeadStatus where
  | active
  /-- Stopped at a token that does not fit. -/
  | paused (lookahead : Subtree)
  | halted
deriving Inhabited

/-- The top of one reading. -/
structure Head where
  node : NodeId
  /-- The states below the place where recovery began. -/
  below : Option (Array SummaryEntry) := none
  nodesAtFault : Nat := 0
  status : HeadStatus := .active
deriving Inhabited

namespace HeadStatus

/-- Whether a reading may go on. -/
def isActive : HeadStatus → Bool
  | active => true
  | _ => false

/-- Whether a reading waits for recovery. -/
def isPaused : HeadStatus → Bool
  | paused _ => true
  | _ => false

/-- Whether a reading has been given up. -/
def isHalted : HeadStatus → Bool
  | halted => true
  | _ => false

end HeadStatus

/-- All readings and the nodes that they share. -/
structure Stack where
  nodes : Array StackNode := #[]
  heads : Array Head := #[]
deriving Inhabited

/-- Subtrees that were taken off a stack, and the head that is left. -/
structure Slice where
  subtrees : Array Subtree
  version : Nat
deriving Inhabited

/-- A walk down the stack: the node reached and the subtrees passed, topmost first;
`count` leaves extras out. -/
structure Walk where
  node : NodeId
  subtrees : Array Subtree := #[]
  count : Nat := 0
deriving Inhabited

/-- What to do at a node of a walk. -/
structure Verdict where
  take : Bool := false
  stop : Bool := false

/-- The walk that follows a link. -/
def Walk.follow (w : Walk) (l : Link) : Walk :=
  match l.subtree with
  | none => { w with node := l.target, count := w.count + 1 }
  | some t => {
      node := l.target
      subtrees := w.subtrees.push t
      count := if t.extra then w.count else w.count + 1 }

namespace Stack

/-- The node with a number. -/
def node (s : Stack) (i : NodeId) : StackNode := s.nodes.getD i default

/-- The head of a reading. -/
def head (s : Stack) (v : Nat) : Head := s.heads.getD v default

/-- The node on top of a reading. -/
def top (s : Stack) (v : Nat) : StackNode := s.node (s.head v).node

/-- The state of the automaton in a reading. -/
def state (s : Stack) (v : Nat) : StateId := (s.top v).state

/-- How far a reading has come. -/
def position (s : Stack) (v : Nat) : Extent := (s.top v).position

/-- Changes a head. -/
def modifyHead (s : Stack) (v : Nat) (f : Head → Head) : Stack :=
  { s with heads := s.heads.modify v f }

/-- The stack before the first token. -/
def initial : Stack where
  nodes := #[{ state := StateId.initial }]
  heads := #[{ node := 0 }]

/-- Puts a subtree on top of a reading; without one, recovery begins there. -/
def push (s : Stack) (v : Nat) (subtree : Option Subtree) (state : StateId) : Stack :=
  let below := s.top v
  let link : Link := ⟨(s.head v).node, subtree⟩
  let new : StackNode := match subtree with
    | none => { below with state, links := #[link] }
    | some t => {
        state
        links := #[link]
        position := below.position + t.total
        cost := below.cost + t.cost
        nodeCount := below.nodeCount + t.nodeCount
        weight := below.weight + t.weight }
  let id := s.nodes.size
  { nodes := s.nodes.push new
    heads := s.heads.modify v fun h => { h with
      node := id
      nodesAtFault := if subtree.isNone then new.nodeCount else h.nodesAtFault } }

/-- The weight of all that a link leads to, its own subtree included. -/
private def linkWeight (s : Stack) (l : Link) : Int :=
  (s.node l.target).weight + (l.subtree.map (·.weight)).getD 0

/-- The node count of all that a link leads to, its own subtree included. -/
private def linkNodeCount (s : Stack) (l : Link) : Nat :=
  (s.node l.target).nodeCount + (l.subtree.map (·.nodeCount)).getD 0

/-- Whether two links hold subtrees that stand for each other. -/
private def linksAgree (a b : Link) : Bool :=
  match a.subtree, b.subtree with
  | none, none => true
  | some x, some y => x.equivalent y
  | _, _ => false

/-- How many ways down a node can have. -/
def maxLinks : Nat := 8

/-- Gives a node one more way down.  Where an equivalent way exists the two are
united: the heavier subtree is kept if both lead to one node, and the links of
the lower nodes are united if those could stand for each other. -/
def addLink (s : Stack) (id : NodeId) (link : Link) : Nat → Stack
  | 0 => s
  | fuel + 1 =>
    if link.target = id then s
    else
      let links := (s.node id).links
      let same (l : Link) : Bool :=
        linksAgree l link &&
          (l.target == link.target ||
            ((s.node l.target).state == (s.node link.target).state &&
              (s.node l.target).position.bytes == (s.node link.target).position.bytes &&
              (s.node l.target).cost == (s.node link.target).cost))
      match links.findIdx? same with
      | some i =>
        let old := links.getD i default
        if old.target = link.target then
          if (link.subtree.map (·.weight)).getD 0 > (old.subtree.map (·.weight)).getD 0 then
            let weight := s.linkWeight link
            { s with nodes := s.nodes.modify id fun n => { n with
                links := n.links.modify i fun l => { l with subtree := link.subtree }
                weight } }
          else s
        else
          let lower := (s.node link.target).links
          let s := lower.foldl (fun s l => s.addLink old.target l fuel) s
          let weight := s.linkWeight link
          { s with nodes := s.nodes.modify id fun n =>
              { n with weight := if weight > n.weight then weight else n.weight } }
      | none =>
        if links.size = maxLinks then s
        else
          let weight := s.linkWeight link
          let nodeCount := s.linkNodeCount link
          { s with nodes := s.nodes.modify id fun n => { n with
              links := n.links.push link
              nodeCount := max nodeCount n.nodeCount
              weight := if weight > n.weight then weight else n.weight } }

/-- Whether two readings have come to the same state at the same place and cost. -/
def canMerge (s : Stack) (v w : Nat) : Bool :=
  let a := s.top v
  let b := s.top w
  (s.head v).status.isActive && (s.head w).status.isActive && a.state == b.state &&
    a.position.bytes == b.position.bytes && a.cost == b.cost

/-- Drops a reading. -/
def remove (s : Stack) (v : Nat) : Stack :=
  { s with heads := s.heads.eraseIdxIfInBounds v }

/-- Unites the reading `w` with the reading `v`, if they can merge. -/
def merge? (s : Stack) (v w : Nat) : Option Stack :=
  if !s.canMerge v w then none
  else
    let id := (s.head v).node
    let s := (s.top w).links.foldl (fun s l => s.addLink id l (s.nodes.size + 1)) s
    let s :=
      if s.state v = StateId.recovery then
        let n := (s.top v).nodeCount
        s.modifyHead v fun h => { h with nodesAtFault := n }
      else s
    some (s.remove w)

/-- Puts the reading `v` in the place of an earlier reading `w`. -/
def renumber (s : Stack) (v w : Nat) : Stack :=
  if v = w then s
  else
    let old := s.head w
    let new := s.head v
    let new := if new.below.isNone then { new with below := old.below } else new
    { s with heads := (s.heads.setIfInBounds w new).eraseIdxIfInBounds v }

/-- Adds a reading that is like `v` but has no record of what lies below. -/
def copy (s : Stack) (v : Nat) : Stack × Nat :=
  ({ s with heads := s.heads.push { s.head v with below := none } }, s.heads.size)

/-- Exchanges two readings. -/
def swap (s : Stack) (v w : Nat) : Stack :=
  let a := s.head v
  let b := s.head w
  { s with heads := (s.heads.setIfInBounds v b).setIfInBounds w a }

/-- Stops a reading for good. -/
def halt (s : Stack) (v : Nat) : Stack := s.modifyHead v ({ · with status := .halted })

/-- Stops a reading at a token that does not fit. -/
def pause (s : Stack) (v : Nat) (lookahead : Subtree) : Stack :=
  let n := (s.top v).nodeCount
  s.modifyHead v ({ · with status := .paused lookahead, nodesAtFault := n })

/-- The cost of a reading, with the cost of a recovery that has only begun. -/
def cost (s : Stack) (v : Nat) : Nat :=
  let top := s.top v
  let fresh := top.state == StateId.recovery &&
    match top.links[0]? with
    | some l => l.subtree.isNone
    | none => false
  top.cost + if (s.head v).status.isPaused || fresh then Cost.recovery else 0

/-- Keeps the count at the last fault no greater than the present count. -/
def settle (s : Stack) (v : Nat) : Stack :=
  let n := (s.top v).nodeCount
  if n < (s.head v).nodesAtFault then s.modifyHead v ({ · with nodesAtFault := n }) else s

/-- How many nodes a reading has gained since its last fault. -/
def nodesSinceFault (s : Stack) (v : Nat) : Nat :=
  (s.top v).nodeCount - (s.head v).nodesAtFault

/-- Whether text was taken up on the first way down from a node before the count at the
last fault is reached. -/
private def advancedFrom (s : Stack) (atFault : Nat) (id : NodeId) : Nat → Bool
  | 0 => false
  | fuel + 1 =>
    let n := s.node id
    match n.links[0]? with
    | none => false
    | some l =>
      match l.subtree with
      | none => false
      | some t =>
        if t.total.bytes > 0 then true
        else if n.nodeCount > atFault && t.cost = 0 then s.advancedFrom atFault l.target fuel
        else false

/-- Whether a reading has taken up any text since its last fault. -/
def advancedSinceFault (s : Stack) (v : Nat) : Bool :=
  (s.top v).cost = 0 ||
    s.advancedFrom (s.head v).nodesAtFault (s.head v).node (s.nodes.size + 1)

/-- How many walks are followed at once. -/
def maxWalks : Nat := 64

/-- Adds the outcome of a walk: a new reading, unless an earlier outcome ended at the
same node. -/
private def addSlice (s : Stack) (v : Nat) (slices : Array Slice) (w : Walk) :
    Stack × Array Slice :=
  let subtrees := w.subtrees.reverse
  let here (sl : Slice) : Bool := (s.head sl.version).node == w.node
  match (List.range slices.size).reverse.find? (fun i => here (slices.getD i default)) with
  | some i =>
    let version := (slices.getD i default).version
    (s, slices.insertIdxIfInBounds (i + 1) { subtrees, version })
  | none =>
    let version := s.heads.size
    let head : Head := { node := w.node, nodesAtFault := (s.head v).nodesAtFault }
    ({ s with heads := s.heads.push head }, slices.push { subtrees, version })

/-- One round of all walks: `i` is the walk at hand and `size` the number of walks
that this round still covers. -/
private def walkRound {σ : Type} (v : Nat) (decide : StackNode → Walk → σ → σ × Verdict) :
    Nat → Nat → Nat → Stack × Array Slice × Array Walk × σ → Stack × Array Slice × Array Walk × σ
  | 0, _, _, r => r
  | fuel + 1, i, size, (s, slices, walks, note) =>
    if i ≥ size then (s, slices, walks, note)
    else
      let w := walks.getD i default
      let n := s.node w.node
      let (note, verdict) := decide n w note
      let (s, slices) := if verdict.take then s.addSlice v slices w else (s, slices)
      if verdict.stop || n.links.isEmpty then
        walkRound v decide fuel i (size - 1) (s, slices, walks.eraseIdxIfInBounds i, note)
      else
        let walks := (n.links.extract 1).foldl (fun (walks : Array Walk) l =>
          if walks.size ≥ maxWalks then walks else walks.push (w.follow l)) walks
        let walks := walks.setIfInBounds i (w.follow (n.links.getD 0 default))
        walkRound v decide fuel (i + 1) size (s, slices, walks, note)

/-- Goes on with the walks, round by round, until none is left. -/
private def walkAll {σ : Type} (v : Nat) (decide : StackNode → Walk → σ → σ × Verdict) :
    Nat → Stack × Array Slice × Array Walk × σ → Stack × Array Slice × σ
  | 0, (s, slices, _, note) => (s, slices, note)
  | fuel + 1, (s, slices, walks, note) =>
    if walks.isEmpty then (s, slices, note)
    else walkAll v decide fuel
      (walkRound v decide (2 * maxWalks) 0 walks.size (s, slices, walks, note))

/-- Walks down from a head on all ways at once.  `decide` says where a walk ends and
where what it passed becomes a reading of its own. -/
def walk {σ : Type} (s : Stack) (v : Nat) (note : σ)
    (decide : StackNode → Walk → σ → σ × Verdict) : Stack × Array Slice × σ :=
  walkAll v decide (s.nodes.size + 2) (s, #[], #[{ node := (s.head v).node }], note)

/-- Takes off `count` subtrees on all ways. -/
def popCount (s : Stack) (v : Nat) (count : Nat) : Stack × Array Slice :=
  let (s, slices, _) := s.walk v () fun _ w _ =>
    ((), if w.count = count then { take := true, stop := true } else {})
  (s, slices)

/-- Takes off everything on all ways. -/
def popAll (s : Stack) (v : Nat) : Stack × Array Slice :=
  let (s, slices, _) := s.walk v () fun n _ _ => ((), { take := n.links.isEmpty })
  (s, slices)

/-- Takes a stretch of text that fits no rule off the top, if it is there. -/
def popError (s : Stack) (v : Nat) : Stack × Option Subtree :=
  if !(s.top v).links.any (fun l => (l.subtree.map (·.isError)).getD false) then (s, none)
  else
    let (s, slices, _) := s.walk v false fun _ w found =>
      match w.subtrees[0]? with
      | none => (found, {})
      | some t =>
        if !found && t.isError then (true, { take := true, stop := true })
        else (found, { stop := true })
    match slices[0]? with
    | none => (s, none)
    | some slice => (s.renumber slice.version v, slice.subtrees[0]?)

/-- Notes the state at a node, once for each depth. -/
private def recordEntry (maxDepth : Nat) (n : StackNode) (w : Walk)
    (entries : Array SummaryEntry) : Array SummaryEntry × Verdict :=
  if w.count > maxDepth then (entries, { stop := true })
  else
    let level := entries.toList.reverse.takeWhile (·.depth ≥ w.count)
    if level.any fun e => e.depth == w.count && e.state == n.state then (entries, {})
    else (entries.push { position := n.position, depth := w.count, state := n.state }, {})

/-- Records the states below a head, down to a depth. -/
def recordBelow (s : Stack) (v : Nat) (maxDepth : Nat) : Stack :=
  let (s, _, entries) := s.walk v #[] (recordEntry maxDepth)
  s.modifyHead v ({ · with below := some entries })

end Stack

end StoryMend.Syntax
