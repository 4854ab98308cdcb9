import TaintSeed.View.Basic

/-!
# Algorithms on Graphs

Algorithms that know nothing of views. A graph shows itself to them in one of
two ways. As an `Iterator` it has an order and tells which numbers are visited
from a number; the algorithm then goes through all numbers below the order,
whether there is a node behind them or not. As a `Directed` graph it lists its
nodes and the successors of each of them, and the lists are walked through with
a cursor.

The figures of a view and the search for its cycles take such algorithms as
arguments and know nothing about how they work. What they are given are the
algorithms of this module. The components are found by spreading from each
node: a number that comes up a second time is dropped, so each number adds its
successors once, and the edges bound the number of steps.

## Main definitions

* `View.Iterator`, `View.Directed`: A graph as an algorithm sees it.
* `View.iterator`, `View.directed`: A view as such a graph.
* `View.Directed.components`, `View.Directed.groups`: The strongly connected components.
* `View.Iterator.check`: How many numbers are visited from themselves, and from how many none is.
-/

namespace TaintSeed.View

/-- A graph on the numbers below its order. -/
structure Iterator where
  /-- The first number that is not in the graph. -/
  order : Int
  /-- The numbers that are visited from a number, in order. -/
  visit : NodeId → List NodeId

/-- A graph on listed numbers. -/
structure Directed where
  /-- The numbers of the nodes. -/
  nodes : List NodeId
  /-- The successors of a number. -/
  succs : NodeId → List NodeId

/-- The numbers that a function is called with that never asks to stop. -/
def visited (v : View) (x : NodeId) : List NodeId :=
  (v.visit x [] (fun seen y => (seen ++ [y], false))).1

/-- A view as a graph on the numbers below its order. -/
def iterator (v : View) : Iterator := ⟨v.order, v.visited⟩

/-- A view as a graph on its own numbers. -/
def directed (v : View) : Directed :=
  ⟨(Cursor.start v.keys).listed, fun x => (Cursor.start (v.succs x)).listed⟩

namespace Directed

/-- The number of edges. -/
def size (g : Directed) : Nat := (g.nodes.map (fun x => (g.succs x).length)).foldr (· + ·) 0

/-- Spreads from the pending numbers, in at most `fuel` steps. -/
def spread (g : Directed) : Nat → List NodeId → DistinctList NodeId → DistinctList NodeId
  | 0, _, seen => seen
  | _ + 1, [], seen => seen
  | fuel + 1, x :: xs, seen =>
    if seen.contains x then spread g fuel xs seen
    else spread g fuel (g.succs x ++ xs) (seen.insert x)

/-- What is reached, along at least one edge, from each node that has a successor. -/
def reaches (g : Directed) : Table NodeId (DistinctList NodeId) :=
  let size := g.size
  ⟨(g.nodes.filter (fun x => !(g.succs x).isEmpty)).map
    (fun x => (x, g.spread ((g.succs x).length + size) (g.succs x) ∅))⟩

/-- The numbers that are reached from `x` and reach it, or `x` alone, given what each number
    reaches. -/
def component (reaches : Table NodeId (DistinctList NodeId)) (x : NodeId) : List NodeId :=
  let ahead := (reaches.get? x).getD ∅
  if ahead.contains x then
    (ahead.filter (fun y => ((reaches.get? y).getD ∅).contains x)).toList
  else [x]

/-- The strongly connected components of a graph that lists each node once. Each of them is given
    at its least number. -/
def components (g : Directed) : List (List NodeId) :=
  let reaches := g.reaches
  (g.nodes.map (fun x => (x, component reaches x))).filterMap
    (fun c => if c.2.all (fun y => decide (c.1 ≤ y)) then some c.2 else none)

/-- The strongly connected components of a graph that may list a node several times. -/
def groups (g : Directed) : List (List NodeId) :=
  components { g with nodes := (DistinctList.ofList g.nodes).toList }

end Directed

namespace Iterator

/-- The numbers below the order. -/
def numbers (g : Iterator) : List NodeId := (List.range g.order.toNat).map (fun n : Nat => (n : NodeId))

/-- The strongly connected components. -/
def components (g : Iterator) : List (List NodeId) :=
  Directed.components ⟨g.numbers, g.visit⟩

/-- What is counted in a graph. -/
structure Check where
  /-- The numbers that are visited from themselves. -/
  loops : Nat
  /-- The numbers from which no number is visited. -/
  isolated : Nat

/-- Counts in a graph that visits no number twice from the same. -/
def check (g : Iterator) : Check :=
  { loops := (g.numbers.filter (fun x => (g.visit x).contains x)).length
    isolated := (g.numbers.filter (fun x => (g.visit x).isEmpty)).length }

end Iterator

end TaintSeed.View
