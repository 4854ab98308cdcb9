import TaintSeed.CallGraph.Graph

/-!
# Views of a Call Graph

A view is a part of a call graph as a graph of numbers: the numbers of its
nodes, the nodes behind them, and the edges in both directions. A view of a
view keeps some of the nodes and every edge between them. It keeps the order
too, the first number above those of the whole graph, so tables indexed by
node number fit all views of one graph. Numbers have 64 bits, and above the
greatest of them comes the least.

## Main definitions

* `View`: Numbers, nodes and edges in both directions.
* `View.ofNodes`: The view of a whole graph.
* `View.restrict`: The part of a view on given numbers.
* `View.induced`: The part of a view on the nodes that satisfy a predicate.
* `View.succs`, `View.preds`: The successors and predecessors of a number.
* `View.Cursor`: A walk through a list of nodes.
-/

namespace TaintSeed

/-- A part of a call graph. -/
structure View where
  /-- The first number above those of the whole graph. -/
  order : Int
  /-- The numbers of the nodes, in increasing order. -/
  keys : List NodeId
  /-- The nodes by number. -/
  nodes : Table NodeId Node
  /-- The successors by number. -/
  edges : Table NodeId (DistinctList NodeId)
  /-- The predecessors by number, of those that have any. -/
  reverse : Table NodeId (DistinctList NodeId)
deriving Inhabited

namespace View

/-- Numbers in increasing order. -/
def increasing (ids : List NodeId) : List NodeId := ids.mergeSort (fun a b => decide (a ≤ b))

/-- The number above a number of 64 bits. -/
def numberAbove (id : NodeId) : NodeId :=
  if id = Int.pow 2 63 - 1 then -(Int.pow 2 63) else id + 1

/-- The first number above those of nodes, which are looked at one after the other. -/
def orderOf (nodes : List Node) : Int :=
  nodes.foldl (fun order n => if order ≤ n.id then numberAbove n.id else order) 0

/-- The edges turned around. -/
def turned (edges : Table NodeId (DistinctList NodeId)) : Table NodeId (DistinctList NodeId) :=
  edges.entries.foldl
    (fun rev e => e.2.toList.foldl (fun rev y => rev.modify y ∅ (fun s => s.insert e.1)) rev) ∅

/-- The view of a whole graph, given by its nodes and the callees of each. -/
def ofNodes (nodes : List Node) (succs : Node → List Node) : View :=
  let edges : Table NodeId (DistinctList NodeId) :=
    nodes.foldl (fun t n => t.set n.id (.ofList ((succs n).map Node.id))) ∅
  { order := orderOf nodes
    keys := increasing (nodes.map Node.id)
    nodes := nodes.foldl (fun t n => t.set n.id n) ∅
    edges := edges
    reverse := turned edges }

/-- The view of a whole call graph, from what it answers. -/
def ofCallGraph (c : CallGraph) : View := ofNodes c.nodes c.succs

/-- The view of a whole call graph. -/
def ofGraph (g : Graph) : View := ofCallGraph g.answers

/-- The successors of a number, in increasing order. -/
def succs (v : View) (id : NodeId) : List NodeId := increasing ((v.edges.get? id).getD ∅).toList

/-- The predecessors of a number, in increasing order. -/
def preds (v : View) (id : NodeId) : List NodeId := increasing ((v.reverse.get? id).getD ∅).toList

/-- Whether there is an edge from `x` to `y`. -/
def hasEdge (v : View) (x y : NodeId) : Bool := ((v.edges.get? x).getD ∅).contains y

/-- Whether there is an edge between `x` and `y`, in either direction. -/
def hasEdgeBetween (v : View) (x y : NodeId) : Bool := v.hasEdge x y || v.hasEdge y x

/-- The part of a view on those of the given numbers that it has. -/
def restrict (v : View) (ids : List NodeId) : View :=
  let kept : DistinctList NodeId := .ofList (ids.filter v.nodes.contains)
  let keys := increasing kept.toList
  let edges : Table NodeId (DistinctList NodeId) :=
    ⟨keys.map (fun x => (x, ((v.edges.get? x).getD ∅).filter kept.contains))⟩
  { order := v.order
    keys := keys
    nodes := ⟨keys.filterMap (fun x => (v.nodes.get? x).map (fun n => (x, n)))⟩
    edges := edges
    reverse := turned edges }

/-- The part of a view on the nodes that satisfy `keep`. -/
def induced (v : View) (keep : Node → Bool) : View :=
  v.restrict (v.keys.filter (fun x => (v.nodes.get? x).any keep))

/-- The numbers of the nodes, each once, in increasing order. -/
def distinctKeys (v : View) : List NodeId := (DistinctList.ofList v.keys).toList

/-- The number of nodes. -/
def length (v : View) : Nat := v.keys.length

/-- The number of edges. -/
def size (v : View) : Nat := (v.edges.entries.map (fun e => e.2.size)).foldr (· + ·) 0

/-- The node of a number. -/
def node? (v : View) (id : NodeId) : Option Node := v.nodes.get? id

/-- The text of a node that may be missing; empty if it is. -/
def label : Option Node → String
  | none => ""
  | some n => n.text

/-- The nodes, by number. -/
def callNodes (v : View) : List Node := v.keys.filterMap v.node?

/-- Whether the node itself is in the view. -/
def contains (v : View) (n : Node) : Bool :=
  match n.id? with
  | none => false
  | some id => v.node? id == some n

/-- The edge from `x` to `y`, if there is one. -/
def edge? (v : View) (x y : NodeId) : Option (NodeId × NodeId) :=
  if v.hasEdge x y then some (x, y) else none

/-- Walks through a list until `f` asks to stop. Gives what has been gathered, and whether the
    walk was stopped. -/
def walk {σ : Type} (f : σ → NodeId → σ × Bool) : σ → List NodeId → σ × Bool
  | s, [] => (s, false)
  | s, x :: xs =>
    match f s x with
    | (s, true) => (s, true)
    | (s, false) => walk f s xs

/-- Walks through the successors of a number, in increasing order, until `f` asks to stop. -/
def visit {σ : Type} (v : View) (id : NodeId) (s : σ) (f : σ → NodeId → σ × Bool) : σ × Bool :=
  if v.nodes.contains id then walk f s (v.succs id) else (s, false)

/-- A place in a walk through a list of numbers: before the first, at one, or behind the last. -/
structure Cursor where
  /-- The numbers that are walked through. -/
  ids : List NodeId
  /-- How many numbers have been reached, or one more behind the last. -/
  steps : Nat
deriving DecidableEq, Inhabited

namespace Cursor

/-- The walk before its first step. -/
def start (ids : List NodeId) : Cursor := ⟨ids, 0⟩

/-- Steps to the next number, and whether there was one. -/
def next (c : Cursor) : Cursor × Bool :=
  let c := if c.steps ≤ c.ids.length then { c with steps := c.steps + 1 } else c
  (c, decide (c.steps ≤ c.ids.length))

/-- How many numbers remain to be reached. -/
def remaining (c : Cursor) : Nat := c.ids.length - c.steps

/-- The number at the present place. -/
def current? (c : Cursor) : Option NodeId :=
  if c.steps = 0 then none else c.ids[c.steps - 1]?

/-- Back before the first step. -/
def reset (c : Cursor) : Cursor := { c with steps := 0 }

theorem next_of_lt (c : Cursor) (h : c.steps < c.ids.length) :
    c.next = ({ c with steps := c.steps + 1 }, true) := by
  have hle : c.steps ≤ c.ids.length := Nat.le_of_lt h
  simp only [next, if_pos hle, decide_eq_true (Nat.succ_le_of_lt h)]

theorem next_of_le (c : Cursor) (h : c.ids.length ≤ c.steps) : c.next.2 = false := by
  unfold next
  by_cases hle : c.steps ≤ c.ids.length
  · simp only [if_pos hle]
    exact decide_eq_false (by omega)
  · simp only [if_neg hle]
    exact decide_eq_false hle

/-- The numbers that a walk shows from its present place on, until there is no next one. -/
def listed (c : Cursor) : List NodeId :=
  if c.next.2 = true then c.next.1.current?.toList ++ c.next.1.listed else []
termination_by c.ids.length - c.steps
decreasing_by
  rename_i h
  by_cases hlt : c.steps < c.ids.length
  · rw [next_of_lt c hlt]
    exact Nat.sub_succ_lt_self _ _ hlt
  · rw [next_of_le c (Nat.le_of_not_lt hlt)] at h
    cases h

end Cursor

end View

end TaintSeed
