import TaintSeed.View.Stats

/-!
# Elementary Cycles

All ways to go around in a view without passing a node twice, each given once,
from its least number. The search takes the least number that lies on a cycle,
finds the cycles through it inside its component, and goes on with the numbers
above it.

Inside a component the search walks forward and keeps the walked path on a
stack. A node is blocked while it is on the stack, and stays blocked
afterwards as long as every way from it to the start of the cycle is cut off
by blocked nodes. For each blocked node it is noted which nodes wait for it.
When a cycle has been found through a node, the node is released, and with it
the nodes that wait for it, and so on. So no node is entered in vain twice
from one path. The algorithm is Donald B. Johnson's, from "Finding All The
Elementary Circuits of a Directed Graph" (1975), where `walk` is called circuit
and `release` unblock, and `waiting` are the sets B.

The stack holds each node at most once, so the depth of the walk is bounded by
the number of nodes, and each release frees another node, which bounds the
chain of releases.

A negative number begins no cycle. But the components are found by walking
through the whole view once, and that walk stops at a callee that is out of
range.

## Main definitions

* `View.Circuits`: The state of the search.
* `View.Circuits.walk`: Walks on from a node.
* `View.choose`: The least number that lies on a cycle, with its component.
* `View.cyclesBy`: The elementary cycles, from an algorithm that finds components.
* `View.cycles`: The elementary cycles, all of them or the first few.
* `View.cycles?`: The same for a view of any numbers.
-/

namespace TaintSeed.View

/-- The state of the search for cycles through one number. -/
structure Circuits where
  /-- The numbers that must not be entered. -/
  blocked : DistinctList NodeId
  /-- For each number, those that are released together with it. -/
  waiting : Table NodeId (DistinctList NodeId)
  /-- The walked path, the last number first. -/
  stack : List NodeId
  /-- The cycles found so far. -/
  found : Array (List NodeId)
deriving Inhabited

namespace Circuits

/-- Whether the limit, if there is one, has been reached. -/
def isFull (limit : Int) (s : Circuits) : Bool :=
  decide (0 < limit) && decide (limit ≤ (s.found.size : Int))

/-- Puts a number on the path and blocks it. -/
def enter (s : Circuits) (x : NodeId) : Circuits :=
  { s with stack := x :: s.stack, blocked := s.blocked.insert x }

/-- Takes the last number off the path. -/
def leave (s : Circuits) : Circuits := { s with stack := s.stack.tail }

/-- Notes the cycle that leads from the path back to its start. -/
def record (s : Circuits) (start : NodeId) : Circuits :=
  { s with found := s.found.push (s.stack.reverse ++ [start]) }

/-- Lets `x` wait for each of the given numbers. -/
def waitFor (s : Circuits) (x : NodeId) (ys : List NodeId) : Circuits :=
  { s with waiting := ys.foldl (fun t y => t.modify y ∅ (fun w => w.insert x)) s.waiting }

/-- Releases a number and, as far as they are blocked, those that wait for it, in chains of at
    most `fuel` releases. -/
def release : Nat → NodeId → Circuits → Circuits
  | 0, _, s => s
  | fuel + 1, x, s =>
    let waiting := (s.waiting.get? x).getD ∅
    let s := { s with
      blocked := s.blocked.filter (fun y => y != x)
      waiting := s.waiting.set x ∅ }
    waiting.toList.foldl (fun s y => if s.blocked.contains y then release fuel y s else s) s

/-- Walks on from `x`, at most `fuel` numbers deep, and notes every way back to `start`. Tells
    whether there was one. -/
def walk (v : View) (limit : Int) (start : NodeId) : Nat → NodeId → Circuits → Circuits × Bool
  | 0, _, s => (s, false)
  | fuel + 1, x, s =>
    let (s, closed) := (v.succs x).foldl
      (fun (acc : Circuits × Bool) y =>
        if acc.1.isFull limit then acc
        else if y = start then (acc.1.record y, true)
        else if acc.1.blocked.contains y then acc
        else
          let (s, closed) := walk v limit start fuel y acc.1
          (s, acc.2 || closed))
      (s.enter x, false)
    -- A node on a cycle can be on another one; any other must wait until a way opens behind it.
    let s := if closed then s.release (v.length + 1) x else s.waitFor x (v.succs x)
    (s.leave, closed)

end Circuits

/-- The least number known to lie on a cycle, which is negative if none is known, and the numbers
    of its component. -/
structure Choice where
  /-- The number. -/
  least : NodeId
  /-- Its component. -/
  component : DistinctList NodeId
deriving DecidableEq

namespace Choice

/-- Before any component has been looked at. -/
def start : Choice := ⟨-1, ∅⟩

/-- Looks at a component. A number that is alone lies on a cycle only if it calls itself. -/
def consider (v : View) (chosen : Choice) (component : List NodeId) : Choice :=
  match increasing component with
  | [] => chosen
  | x :: xs =>
    if xs.isEmpty && !v.hasEdge x x then chosen
    else if decide (chosen.least < 0) || decide (x < chosen.least) then ⟨x, .ofList (x :: xs)⟩
    else chosen

end Choice

/-- The least number that lies on a cycle, with its component, from an algorithm that finds
    components. -/
def choose (components : Iterator → List (List NodeId)) (v : View) : Choice :=
  (components v.iterator).foldl (Choice.consider v) .start

/-- The cycles through the least number on a cycle among `keys`, then those through the next
    one, and so on, behind the cycles already found; at most `fuel` times. -/
def cyclesFrom (components : Iterator → List (List NodeId)) (v : View) (limit : Int) :
    Nat → List NodeId → Array (List NodeId) → Array (List NodeId)
  | 0, _, found => found
  | fuel + 1, keys, found =>
    let s : Circuits := ⟨∅, ∅, [], found⟩
    if keys.isEmpty || s.isFull limit then found
    else
      let rest := v.restrict keys
      let chosen := rest.choose components
      if chosen.least < 0 then found
      else
        -- A cycle through the number stays in its component, and the smaller numbers are done.
        let part := rest.restrict chosen.component.toList
        let s := (s.walk part limit chosen.least (part.length + 1) chosen.least).1
        cyclesFrom components v limit fuel
          (keys.dropWhile (fun x => decide (x < chosen.least))).tail s.found

/-- The elementary cycles, each from its least number around to it again: at most `limit` of
    them, or all if `limit` is not positive. The components are found by the given algorithm. -/
def cyclesBy (components : Iterator → List (List NodeId)) (v : View) (limit : Int) :
    List (List NodeId) :=
  (cyclesFrom components v limit v.length v.keys #[]).toList

/-- The elementary cycles, at most `limit` of them if it is positive. -/
def cycles (v : View) (limit : Int) : List (List NodeId) := v.cyclesBy Iterator.components limit

/-- The wording of the failure to search. -/
def Misfit.searchMessage : Misfit → String
  | .noRoom => noRoomMessage
  | .outOfRange callee order =>
    "runtime error: index out of range [" ++ toString callee ++ "]" ++
      if callee < 0 then "" else " with length " ++ toString order

/-- The first number out of range on a walk from the pending numbers, each of which is followed by
    its callees, in at most `fuel` steps. -/
def strayAhead? (v : View) : Nat → List NodeId → DistinctList NodeId → Option Misfit
  | 0, _, _ => none
  | _ + 1, [], _ => none
  | fuel + 1, x :: xs, seen =>
    if !v.isInRange x then some (.outOfRange x v.order)
    else if seen.contains x then strayAhead? v fuel xs seen
    else strayAhead? v fuel (v.succs x ++ xs) (seen.insert x)

/-- The elementary cycles of a view of any numbers. A view without nodes is not searched. -/
def cycles? (v : View) (limit : Int) : Except Misfit (List (List NodeId)) :=
  if v.keys.isEmpty then .ok []
  else if v.hasRoom then
    match v.strayAhead? (v.length + v.size + 1) v.vertices ∅ with
    | some e => .error e
    | none => .ok (v.cycles limit)
  else .error .noRoom

/-- The nodes behind the numbers of some cycles. -/
def nodesOf (v : View) (cycles : List (List NodeId)) : List (List Node) :=
  cycles.map (fun c => c.filterMap v.node?)

/-- The nodes of the elementary cycles. -/
def cycleNodes (v : View) (limit : Int) : List (List Node) := v.nodesOf (v.cycles limit)

end TaintSeed.View
