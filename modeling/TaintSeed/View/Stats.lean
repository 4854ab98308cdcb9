import TaintSeed.View.Algorithms

/-!
# Figures of a View

The numbers that describe a view: its nodes and edges, the nodes that call
themselves, the nodes that call no node of the view, and the groups of nodes
that call each other in a circle.

The count of nodes without callees is taken over all numbers below the order.
A number below the order that is not in the view has no callee either, so
those are taken off again.

The count keeps a figure for each number below the order, so the order must not
be too large, and every callee must be one of these numbers. In the view of a
graph both hold. A view can be made of other numbers as well, and then the count
stops at the first callee that is out of range.

## Main definitions

* `View.Stats`: The figures of a view.
* `View.statsBy`: Computes them with given algorithms.
* `View.stats`: Computes them.
* `View.Misfit`: Why a view has no figures.
* `View.stats?`: The figures of a view of any numbers.
-/

namespace TaintSeed.View

/-- The figures of a view. -/
@[ext]
structure Stats where
  /-- The number of nodes. -/
  nodes : Nat
  /-- The number of edges. -/
  edges : Nat
  /-- The number of nodes that call themselves. -/
  loops : Nat
  /-- The number of nodes that call no node of the view. -/
  isolated : Int
  /-- The number of components with at least two nodes. -/
  recursive : Nat
deriving DecidableEq, Inhabited

/-- The figures in words. -/
def Stats.text (s : Stats) : String :=
  toString s.nodes ++ " nodes, " ++ toString s.edges ++ " edges, " ++ toString s.loops ++
    " self-loops, " ++ toString s.isolated ++ " isolated, " ++ toString s.recursive ++
    " recursive components"

/-- Whether a number is at least zero and below the order. -/
def isInRange (v : View) (x : NodeId) : Bool := decide (0 ≤ x) && decide (x < v.order)

/-- The numbers of the view that are in range, each once. -/
def vertices (v : View) : List NodeId := v.distinctKeys.filter v.isInRange

/-- The figures of a view, from an algorithm that counts numbers and one that finds components. -/
def statsBy (check : Iterator → Iterator.Check) (groups : Directed → List (List NodeId))
    (v : View) : Stats :=
  let counted := check v.iterator
  { nodes := v.length
    edges := v.size
    loops := counted.loops
    -- Numbers that are not in the view have no callees either.
    isolated := (counted.isolated : Int) - (v.order - (v.length : Int))
    recursive := (groups v.directed).foldl (fun k c => if 1 < c.length then k + 1 else k) 0 }

/-- The figures of a view. -/
def stats (v : View) : Stats := v.statsBy Iterator.check Directed.groups

/-- Why a view cannot be walked through number by number. -/
inductive Misfit where
  /-- There is no room for as many figures as numbers. -/
  | noRoom
  /-- A callee is out of range. -/
  | outOfRange (callee : NodeId) (order : Int)
deriving DecidableEq

/-- The wording of the failure to keep a figure for each number. -/
def noRoomMessage : String := "runtime error: makeslice: len out of range"

/-- The wording of the failure to count. -/
def Misfit.message : Misfit → String
  | .noRoom => noRoomMessage
  | .outOfRange callee _ => "vertex out of range: " ++ toString callee

/-- Whether there is room for a figure of eight bytes for each number below the order. -/
def hasRoom (v : View) : Bool := decide (0 ≤ v.order) && decide (v.order ≤ Int.pow 2 45)

/-- The least callee of a number that is out of range. -/
def strayCallee? (v : View) (x : NodeId) : Option Misfit :=
  ((v.succs x).find? (fun y => !v.isInRange y)).map (fun y => .outOfRange y v.order)

/-- The figures of a view of any numbers. -/
def stats? (v : View) : Except Misfit Stats :=
  if v.hasRoom then
    match v.vertices.findSome? v.strayCallee? with
    | some e => .error e
    | none => .ok v.stats
  else .error .noRoom

end TaintSeed.View
