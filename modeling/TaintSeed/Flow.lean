import TaintSeed.CallGraph.Node

/-!
# Flows

Where a taint comes from. A flow starts at a parameter of a node: either the
argument itself is tainted, or the objects are that can be reached from one of
the objects that the argument refers to.

## Main definitions

* `FlowKind`: The two kinds of flows.
* `Flow`: A flow.
-/

namespace TaintSeed

/-- The kinds of flows. -/
inductive FlowKind where
  /-- The argument itself is the source. -/
  | entryArg
  /-- An object that the argument refers to is the source. -/
  | entryArgBinder
  /-- A number that stands for no kind. -/
  | other (code : Int)
deriving DecidableEq, Inhabited

namespace FlowKind

/-- The word for a kind. -/
def text : FlowKind → String
  | .entryArg => "EntryArgSource"
  | .entryArgBinder => "EntryArgBinderSource"
  | .other code => "Kind(" ++ toString code ++ ")"

end FlowKind

/-- Where a taint comes from. The node of a flow is always there: flows are made of nodes that
    sources were matched with. -/
inductive Flow where
  /-- An argument of a node. -/
  | entryArg (node : Node) (arg : Int)
  /-- An object that an argument of a node refers to. -/
  | entryArgBinder (object : Instance) (node : Node) (arg : Int)
deriving DecidableEq, Inhabited

namespace Flow

/-- The kind of a flow. -/
def kind : Flow → FlowKind
  | .entryArg .. => .entryArg
  | .entryArgBinder .. => .entryArgBinder

/-- The node where a flow starts. -/
def origin : Flow → Node
  | .entryArg node _ => node
  | .entryArgBinder _ node _ => node

/-- The text of a flow, by which flows are sorted. -/
def text : Flow → String
  | .entryArg node arg =>
    "EntryArgSourceFlow(" ++ node.method.text ++ ", arg " ++ toString arg ++ ")"
  | .entryArgBinder object node arg =>
    "EntryArgBinderSourceFlow(" ++ object.text ++ ", " ++ node.method.text ++ ", arg " ++
      toString arg ++ ")"

end Flow

end TaintSeed
