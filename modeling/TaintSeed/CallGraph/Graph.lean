import TaintSeed.CallGraph.Node
import TaintSeed.Collection.DistinctList
import TaintSeed.Collection.Table

/-!
# Call Graphs

Nodes with call edges between them. A node is placed under the next free
number, so the numbers are the positions in the list of nodes. A method is in
the graph at most once in each context: placing it again gives the node that
is there, and the graph stays as it is.

An edge may be drawn only between nodes that are in the graph themselves. A
node with the method and context of another that is there is not enough.

The entries of a node are the blocks where its execution starts. They can be
set, even to none; a node for which none were set starts at its first block if
it has one.

A `Graph` says what a call graph is, with one list for each of its parts. The
analyses do not look at these lists: they ask, and a `CallGraph` is the answers
they get.

## Main definitions

* `CallGraph`: What the analyses ask of a call graph.
* `Graph`: Nodes, edges, entries and roots.
* `Graph.place`: Places a node, or finds the one that is there.
* `Graph.connect`: Draws an edge.
* `Graph.succs`, `Graph.preds`: The callees and callers of a node.
* `Graph.entriesOf`: Where the execution of a node starts.
* `Graph.answers`: What the graph answers to the analyses.
-/

namespace TaintSeed

/-- What the analyses ask of a call graph. -/
@[ext] structure CallGraph where
  /-- The nodes, by number. -/
  nodes : List Node
  /-- The node of a method in a context. -/
  find? : MethodRef → String → Option Node
  /-- The callers of a node, by number. -/
  preds : Node → List Node
  /-- The callees of a node, by number. -/
  succs : Node → List Node
  /-- Whether there is an edge from a caller to a callee. -/
  hasEdge : Node → Node → Bool
  /-- The points where the execution of a node starts. -/
  entriesOf : Node → List ProgramPoint

/-- A call graph. -/
structure Graph where
  /-- The nodes; the position of a node is its number. -/
  nodes : List Node
  /-- The edges, from the caller to the callee. -/
  edges : DistinctList (NodeId × NodeId)
  /-- The entry blocks of the nodes for which they were set. -/
  entries : Table NodeId (List Int)
  /-- The nodes where the program starts. -/
  roots : List Node
deriving Inhabited

namespace Graph

/-- The graph without nodes. -/
def empty : Graph := ⟨[], ∅, ∅, []⟩

/-- The number of nodes. -/
def size (g : Graph) : Nat := g.nodes.length

/-- The node of a number. -/
def byId? (g : Graph) (id : NodeId) : Option Node := Node.nth? g.nodes id

/-- The node of a method in a context. -/
def find? (g : Graph) (method : MethodRef) (context : String) : Option Node :=
  g.nodes.find? (fun n => n.method == method && n.context == context)

/-- Whether the node itself is in the graph. -/
def holds (g : Graph) (n : Node) : Bool :=
  match n.id? with
  | none => false
  | some id => g.byId? id == some n

/-- Places a node under the next number, unless its method is there in its context. Gives the
    node that is in the graph afterwards. -/
def place (g : Graph) (n : Node) : Graph × Node :=
  match g.find? n.method n.context with
  | some there => (g, there)
  | none =>
    let placed := { n with id? := some g.nodes.length }
    ({ g with nodes := g.nodes ++ [placed] }, placed)

/-- The failure to draw an edge. -/
structure NotInGraph where
  /-- The caller. -/
  caller : Node
  /-- The callee, if there is one. -/
  callee? : Option Node
deriving DecidableEq

/-- The wording of the failure. -/
def NotInGraph.message (e : NotInGraph) : String :=
  "edge " ++ e.caller.text ++ " -> " ++ Node.textOf e.callee? ++
    ": both nodes must be in the graph"

/-- Draws an edge between two nodes of the graph. -/
def connect (g : Graph) (caller callee : Node) : Except NotInGraph Graph :=
  if g.holds caller && g.holds callee then
    .ok { g with edges := g.edges.insert (caller.id, callee.id) }
  else .error ⟨caller, some callee⟩

/-- Lists a node among those where the program starts. -/
def addRoot (g : Graph) (n : Node) : Graph := { g with roots := g.roots ++ [n] }

/-- Sets the entry blocks of a node. -/
def setEntries (g : Graph) (n : Node) (blocks : List Int) : Graph :=
  { g with entries := g.entries.set n.id blocks }

/-- Whether there is an edge. -/
def hasEdge (g : Graph) (caller callee : Node) : Bool := g.edges.contains (caller.id, callee.id)

/-- The nodes of the given numbers, by number. -/
def among (g : Graph) (ids : List NodeId) : List Node :=
  g.nodes.filter (fun m => ids.contains m.id)

/-- The callees of a node, by number. -/
def succs (g : Graph) (n : Node) : List Node :=
  g.among ((g.edges.toList.filter (fun e => e.1 == n.id)).map Prod.snd)

/-- The callers of a node, by number. -/
def preds (g : Graph) (n : Node) : List Node :=
  g.among ((g.edges.toList.filter (fun e => e.2 == n.id)).map Prod.fst)

/-- The points where the execution of a node starts. -/
def entriesOf (g : Graph) (n : Node) : List ProgramPoint :=
  n.entriesFrom (g.entries.get? n.id)

/-- What the graph answers to the analyses. -/
def answers (g : Graph) : CallGraph :=
  ⟨g.nodes, g.find?, g.preds, g.succs, g.hasEdge, g.entriesOf⟩

end Graph

end TaintSeed
