import TaintSeed.Reference

/-!
# Nodes of a Call Graph

A node is a method in a calling context, with what the analysis needs to know
about its code: the numbers and types of its parameters and the number of its
basic blocks. A node gets its number when it is placed in a graph. A node that
is in no graph has no number and reads as number zero.

## Main definitions

* `Loader`: Where the code of a method comes from.
* `Node`: A method in a context.
* `Node.param`: The value number of a parameter.
* `ProgramPoint`: A basic block of a node.
* `Node.entriesFrom`: Where the execution of a node starts.
-/

namespace TaintSeed

/-- Where the code of a method comes from. -/
inductive Loader where
  /-- The platform and its libraries. -/
  | primordial
  /-- The analyzed application. -/
  | application
  /-- A number that stands for no loader. -/
  | other (code : Int)
deriving DecidableEq, Inhabited

namespace Loader

/-- The word for a loader. -/
def text : Loader → String
  | .application => "Application"
  | .primordial => "Primordial"
  | .other _ => "Primordial"

end Loader

/-- A method in a calling context. -/
structure Node where
  /-- The number of the node, if it is placed in a graph. -/
  id? : Option NodeId
  /-- The method. -/
  method : MethodRef
  /-- The calling context; empty for all contexts. -/
  context : String
  /-- Where the code of the method comes from. -/
  loader : Loader
  /-- Whether the method is made up by a model of the platform. -/
  isSynthetic : Bool
  /-- The value numbers of the parameters, of a method the receiver first. -/
  params : List Int
  /-- The declared types of the parameters. -/
  paramTypes : List TypeRef
  /-- The number of basic blocks. -/
  blocks : Int
deriving DecidableEq, Inhabited

namespace Node

/-- The number of the node; zero for a node that is in no graph. -/
def id (n : Node) : NodeId := n.id?.getD 0

/-- Whether the method belongs to the application. -/
def isApplication (n : Node) : Bool := n.loader == .application

/-- Whether the method belongs to the platform. -/
def isPrimordial (n : Node) : Bool := n.loader == .primordial

/-- The method and the context. -/
def text (n : Node) : String :=
  "Node: " ++ n.method.text ++ " Context: " ++
    (if n.context = "" then "Everywhere" else n.context)

/-- The text of a node that may be missing. -/
def textOf : Option Node → String
  | none => "<nil node>"
  | some n => n.text

/-- The failure to find a parameter. -/
structure NoParam where
  /-- The method. -/
  method : MethodRef
  /-- The number of its parameters. -/
  count : Nat
  /-- The position that was asked for. -/
  position : Int
deriving DecidableEq

/-- The wording of the failure. -/
def NoParam.message (e : NoParam) : String :=
  e.method.text ++ " has " ++ toString e.count ++ " parameters, no parameter " ++
    toString e.position

/-- The member of a list at a position that may be negative. -/
def nth? {α : Type} (xs : List α) (i : Int) : Option α := if i < 0 then none else xs[i.toNat]?

/-- The value number of the parameter at a position. -/
def param (n : Node) (i : Int) : Except NoParam Int :=
  match nth? n.params i with
  | some v => .ok v
  | none => .error ⟨n.method, n.params.length, i⟩

/-- The declared type of the parameter at a position; the nameless type where none is declared. -/
def paramType (n : Node) (i : Int) : TypeRef := (nth? n.paramTypes i).getD default

end Node

/-- A basic block of a node. -/
structure ProgramPoint where
  /-- The number of the node. -/
  node : NodeId
  /-- The number of the block. -/
  block : Int
deriving DecidableEq, Inhabited

namespace ProgramPoint

/-- The text of a program point. -/
def text (p : ProgramPoint) : String :=
  "BB[" ++ toString p.block ++ "]@n" ++ toString p.node

/-- Whether a point comes before another: by the node, then by the block. -/
def precedes (p q : ProgramPoint) : Bool :=
  if p.node ≠ q.node then decide (p.node < q.node) else decide (p.block < q.block)

end ProgramPoint

/-- The points where the execution of a node starts, given the blocks that were set for it. -/
def Node.entriesFrom (n : Node) : Option (List Int) → List ProgramPoint
  | some blocks => blocks.map (fun b => ⟨n.id, b⟩)
  | none => if n.blocks ≤ 0 then [] else [⟨n.id, 0⟩]

end TaintSeed
