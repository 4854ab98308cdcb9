import TaintSeed.CallGraph.Graph

/-!
# Call Graphs as They Are Kept

A call graph is asked for the node of a number, for the node of a method in a
context, for the callees of a node and for its callers. Each of these questions
has an index of its own, and whoever changes the graph changes several of them:
the indexes answer as one graph only because they are kept in step.

Nodes are known by identity. Two nodes may agree in everything that they hold
and still be two, so the graph refers to a node by a handle, the place among
all the nodes that were made. A node that was made reads as number zero until
the graph gives it another, and one that is turned down as a duplicate reads as
number zero for good, which is also the number of the first node that was
accepted. Only its handle shows that it is not that node.

The lists of callees and callers are collected from the indexes number by
number. A number without a node would leave a gap in them.

## Main definitions

* `IndexedGraph`: The nodes that were made, and the indexes into them.
* `IndexedGraph.add`: Takes a node in, or finds the one that is there.
* `IndexedGraph.connect`: Draws an edge.
* `IndexedGraph.nodes`, `IndexedGraph.succs`, `IndexedGraph.preds`: Nodes, callees and callers.
* `IndexedGraph.answers`: What the graph answers to the analyses.
-/

namespace TaintSeed

/-- A call graph with an index for each question. Nodes are referred to by handles. -/
structure IndexedGraph where
  /-- The nodes that were made, as they are now. The handle of a node is its position. -/
  made : List Node
  /-- The node of each number. -/
  byNumber : Table NodeId Nat
  /-- The node of each method in each context. -/
  byKey : Table (MethodRef × String) Nat
  /-- The numbers of the callees of each node. -/
  callees : Table NodeId (DistinctList NodeId)
  /-- The numbers of the callers of each node. -/
  callers : Table NodeId (DistinctList NodeId)
  /-- The entry blocks of the nodes for which they were set. -/
  entries : Table NodeId (List Int)
  /-- The nodes where the program starts. -/
  roots : List Nat
  /-- The number for the next node. -/
  next : NodeId
deriving Inhabited

namespace IndexedGraph

/-- The graph without nodes. -/
def empty : IndexedGraph := ⟨[], ∅, ∅, ∅, ∅, ∅, [], 0⟩

/-- The number of nodes. -/
def size (g : IndexedGraph) : Nat := g.byNumber.size

/-- The node of a handle. -/
def node (g : IndexedGraph) (h : Nat) : Node := g.made.getD h default

/-- The number of the node of a handle. -/
def number (g : IndexedGraph) (h : Nat) : NodeId := (g.node h).id

/-- What a node is looked up by. -/
def keyOf (g : IndexedGraph) (h : Nat) : MethodRef × String := ((g.node h).method, (g.node h).context)

/-- Makes a node, which is in no graph yet. -/
def make (g : IndexedGraph) (n : Node) : IndexedGraph :=
  { g with made := g.made ++ [{ n with id? := none }] }

/-- Takes a node in under the next number, unless its method is there in its context. Gives the
    node that is in the graph afterwards. -/
def add (g : IndexedGraph) (h : Nat) : IndexedGraph × Nat :=
  match g.byKey.get? (g.keyOf h) with
  | some there => (g, there)
  | none =>
    ({ g with
        made := g.made.set h { g.node h with id? := some g.next }
        next := g.next + 1
        byNumber := g.byNumber.set g.next h
        byKey := g.byKey.set (g.keyOf h) h
        callees := g.callees.set g.next ∅
        callers := g.callers.set g.next ∅ }, h)

/-- Whether the node is the one that the graph has under its number. -/
def holds (g : IndexedGraph) (h : Nat) : Bool := g.byNumber.get? (g.number h) == some h

/-- Draws an edge between two nodes of the graph, or leaves the graph as it is. -/
def connect (g : IndexedGraph) (caller callee : Nat) :
    Except Graph.NotInGraph Unit × IndexedGraph :=
  if g.holds caller && g.holds callee then
    (.ok (),
      { g with
        callees := g.callees.modify (g.number caller) ∅ (·.insert (g.number callee))
        callers := g.callers.modify (g.number callee) ∅ (·.insert (g.number caller)) })
  else (.error ⟨g.node caller, some (g.node callee)⟩, g)

/-- Lists a node among those where the program starts. -/
def addRoot (g : IndexedGraph) (h : Nat) : IndexedGraph := { g with roots := g.roots ++ [h] }

/-- Sets the entry blocks of a node. -/
def setEntries (g : IndexedGraph) (h : Nat) (blocks : List Int) : IndexedGraph :=
  { g with entries := g.entries.set (g.number h) blocks }

/-- The node of a number. -/
def byId? (g : IndexedGraph) (id : NodeId) : Option Nat := g.byNumber.get? id

/-- The node of a method in a context. -/
def find? (g : IndexedGraph) (method : MethodRef) (context : String) : Option Nat :=
  g.byKey.get? (method, context)

/-- The nodes, by number. -/
def nodes (g : IndexedGraph) : List Nat :=
  (g.byNumber.entries.map Prod.snd).mergeSort (fun a b => decide (g.number a ≤ g.number b))

/-- The number of a node that may be missing. -/
def numberOf (g : IndexedGraph) : Option Nat → NodeId
  | none => 0
  | some h => g.number h

/-- The nodes of the given numbers, by number. A number without a node leaves a gap. -/
def collect (g : IndexedGraph) (ids : Option (DistinctList NodeId)) : List (Option Nat) :=
  ((ids.getD ∅).toList.map g.byId?).mergeSort (fun a b => decide (g.numberOf a ≤ g.numberOf b))

/-- The callees of the node of a number. -/
def succsAt (g : IndexedGraph) (id : NodeId) : List (Option Nat) := g.collect (g.callees.get? id)

/-- The callers of the node of a number. -/
def predsAt (g : IndexedGraph) (id : NodeId) : List (Option Nat) := g.collect (g.callers.get? id)

/-- Whether there is an edge between the nodes of two numbers. -/
def linked (g : IndexedGraph) (caller callee : NodeId) : Bool :=
  ((g.callees.get? caller).getD ∅).contains callee

/-- The callees of a node, by number. -/
def succs (g : IndexedGraph) (h : Nat) : List (Option Nat) := g.succsAt (g.number h)

/-- The callers of a node, by number. -/
def preds (g : IndexedGraph) (h : Nat) : List (Option Nat) := g.predsAt (g.number h)

/-- Whether there is an edge. -/
def hasEdge (g : IndexedGraph) (caller callee : Nat) : Bool :=
  g.linked (g.number caller) (g.number callee)

/-- The points where the execution of a node starts. -/
def entriesOf (g : IndexedGraph) (n : Node) : List ProgramPoint :=
  n.entriesFrom (g.entries.get? n.id)

/-- What the graph answers to the analyses. -/
def answers (g : IndexedGraph) : CallGraph where
  nodes := g.nodes.map g.node
  find? := fun method context => (g.find? method context).map g.node
  preds := fun n => (g.predsAt n.id).filterMap (fun h? => h?.map g.node)
  succs := fun n => (g.succsAt n.id).filterMap (fun h? => h?.map g.node)
  hasEdge := fun m n => g.linked m.id n.id
  entriesOf := g.entriesOf

end IndexedGraph

end TaintSeed
