import TaintSeed.GoProgram.Classes
import TaintSeed.Program
import TaintSeed.Reference

/-!
# Code of a Go Program

The functions of a program with the calls between them, as they are taken into
the analysis. Functions are taken by title, and two functions that a reference
cannot tell apart share a node: the first gives the node, each later one gives
a warning, and the calls of all of them become edges of the node.

Nothing is known about what values refer to, so all objects are stand-ins.

## Main definitions

* `Function`: A function.
* `Code`: Functions and the calls between them.
* `Code.placing`: The nodes of the functions.
* `Code.program`: The program that the analysis is given.
-/

namespace TaintSeed.GoProgram

/-- A function. -/
structure Function where
  /-- How the function is called in messages, which also gives the order. -/
  title : String
  /-- The reference of the function. -/
  method : MethodRef
  /-- The types of the parameters, the receiver first. -/
  params : List GoType
  /-- The number of basic blocks; none if there is no body. -/
  blocks : Nat
  /-- Whether the function is not written in the program. -/
  isSynthetic : Bool
  /-- Whether the program starts here. -/
  isStart : Bool
deriving Inhabited

/-- Functions and the calls between them. -/
structure Code where
  /-- The functions. -/
  functions : List Function
  /-- The calls, by the positions of the functions. -/
  calls : List (Nat × Nat)
deriving Inhabited

namespace Function

/-- The node of a function. Parameters are numbered from one. -/
def node (d : Declarations) (isApp : String → Bool) (f : Function) : Node where
  id? := none
  method := f.method
  context := ""
  loader := if f.method.package ≠ "" && isApp f.method.package then .application else .primordial
  isSynthetic := f.isSynthetic
  params := (List.range' 1 f.params.length).map Int.ofNat
  paramTypes := f.params.map d.ref
  blocks := f.blocks

/-- Whether a body is missing. -/
def lacksBody (f : Function) : Bool := f.blocks == 0 && !f.isSynthetic

end Function

namespace Code

/-- The warning that a function shares the node of another one. -/
def mergeWarning (f : Function) (there : Node) : String :=
  f.title ++ " and " ++ there.method.text ++ " have the same method reference " ++ f.method.text

/-- The warning that a function has no body. -/
def bodyWarning (f : Function) : String := "no body for " ++ f.title

/-- Nodes for functions. -/
structure Placing where
  /-- The graph of the nodes. -/
  graph : Graph
  /-- The node of each function, by its position. -/
  nodes : List (Nat × Node)
  /-- What there is to warn about. -/
  warnings : List String
deriving Inhabited

/-- Gives a function its node. -/
def place (d : Declarations) (isApp : String → Bool) (s : Placing) (f : Function × Nat) :
    Placing :=
  -- Asked before the function is placed, because afterwards its method is always there.
  let isMerged := (s.graph.find? f.1.method "").isSome
  let (graph, there) := s.graph.place (f.1.node d isApp)
  { graph := if f.1.isStart then graph.addRoot there else graph
    nodes := s.nodes ++ [(f.2, there)]
    warnings := s.warnings ++ (if isMerged then [mergeWarning f.1 there] else []) ++
      (if f.1.lacksBody then [bodyWarning f.1] else []) }

/-- The functions by title, with their positions. -/
def ordered (code : Code) : List (Function × Nat) :=
  code.functions.zipIdx.mergeSort (fun f g => decide (f.1.title ≤ g.1.title))

/-- The nodes of the functions. -/
def placing (d : Declarations) (isApp : String → Bool) (code : Code) : Placing :=
  code.ordered.foldl (place d isApp) ⟨.empty, [], []⟩

/-- The node of the function at a position. -/
def Placing.nodeOf? (s : Placing) (position : Nat) : Option Node :=
  (s.nodes.find? (fun n => n.1 == position)).map (·.2)

/-- Draws the edges of calls. -/
def connectAll (s : Placing) : List (Nat × Nat) → Graph → Except Graph.NotInGraph Graph
  | [], g => .ok g
  | (caller, callee) :: rest, g =>
    match s.nodeOf? caller, s.nodeOf? callee with
    | some a, some b =>
      match g.connect a b with
      | .error e => .error e
      | .ok g => connectAll s rest g
    | _, _ => connectAll s rest g

/-- Why code gives no program. -/
inductive Failure where
  /-- An edge cannot be drawn. -/
  | noEdge (e : Graph.NotInGraph)
  /-- The classes are no hierarchy. -/
  | hierarchy (e : Hierarchy.Malformed)
deriving DecidableEq

/-- The wording of the failure. -/
def Failure.message : Failure → String
  | .noEdge e => e.message
  | .hierarchy e => e.message

/-- The types that are walked through: those of parameters, then those that are declared. -/
def metTypes (d : Declarations) (code : Code) : List GoType :=
  code.ordered.flatMap (fun f => f.1.params) ++
    d.decls.map (fun t => .named t.package t.name)

/-- What is printed about a program. -/
def summary (policy : Log.Policy) (p : Program) (h : Hierarchy) : List Log.Entry :=
  policy.debug ("Go frontend: " ++ toString p.graph.size ++ " functions, " ++ toString h.size ++
    " classes, " ++ toString p.warnings.length ++ " warnings")

/-- The program that the analysis is given; `isApp` says which packages belong to the
    application. -/
def program (policy : Log.Policy) (d : Declarations) (isApp : String → Bool) (code : Code) :
    Except Failure (Logged Program) :=
  let s := code.placing d isApp
  match connectAll s code.calls s.graph with
  | .error e => .error (.noEdge e)
  | .ok g =>
    match Hierarchy.ofClasses (d.classes (code.metTypes d)) with
    | .error e => .error (.hierarchy e)
    | .ok h =>
      let p : Program := ⟨g, some .silent, some h, s.warnings⟩
      .ok ⟨p, summary policy p h⟩

end Code

end TaintSeed.GoProgram
