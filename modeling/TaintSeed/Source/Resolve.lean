import TaintSeed.CallGraph.Graph
import TaintSeed.Facts
import TaintSeed.Heap.Closer
import TaintSeed.Source.Basic

/-!
# Resolving Sources

A source is resolved on a node whose method it names, one argument after the
other. An argument gives flows, and each flow taints a set of elements at every
entry of the node. Of an input there is one flow, which taints the local value
and the objects that it may refer to. Of a binder there is a flow for each of
these objects, which taints the local value and the closure of the object. If
no object is known, the one that stands for all objects of the parameter's type
takes their place.

An argument that the node does not have ends the resolution. What the arguments
before it have given stays.

## Main definitions

* `Resolution.Env`: The program that sources are resolved on.
* `Resolution`: Facts, remembered closures and log on the way.
* `Resolution.valueElements`: The elements of an argument's value.
* `Resolution.resolve`: Resolves a source on a node.
* `Resolution.resolveAll`: Resolves sources on all the nodes that they name.
-/

namespace TaintSeed

/-- The state of a resolution. -/
structure Resolution where
  /-- The facts so far. -/
  facts : Facts
  /-- The closures that are remembered, if any are. -/
  closer? : Option Closer
  /-- What has been printed so far. -/
  log : List Log.Entry
deriving Inhabited

namespace Resolution

/-- The program that sources are resolved on. -/
structure Env where
  /-- The call graph. -/
  graph : Graph
  /-- What is known about objects. -/
  heap : Heap
deriving Inhabited

/-- Why an argument cannot be a source. -/
inductive BadArgument where
  /-- The method has no such parameter. -/
  | missing (e : Node.NoParam)
  /-- The parameter is no local value. -/
  | invalid (e : Element.Invalid)
deriving DecidableEq

/-- The wording of the failure. -/
def BadArgument.message : BadArgument → String
  | .missing e => Sentinel.badArgument.text ++ ": " ++ e.message
  | .invalid e => Sentinel.badArgument.text ++ ": " ++ e.message

/-- What the failure holds on to. Why the argument is bad is only told. -/
def BadArgument.chain : BadArgument → List Sentinel
  | .missing _ => [.badArgument]
  | .invalid _ => [.badArgument]

/-- The value number of an argument of a node. -/
def argument (n : Node) (arg : Int) : Except BadArgument Int :=
  match n.param arg with
  | .error e => .error (.missing e)
  | .ok v =>
    match Element.ofLocal n.id v with
    | .error e => .error (.invalid e)
    | .ok _ => .ok v

/-- The objects that a value of a node may refer to. -/
def objectsOf (env : Env) (n : Node) (v : Int) : List Instance :=
  env.heap.pointsTo.objects (.localValue n.id v)

/-- The elements of the value `v` of the parameter at a position: the local value and, if the
    parameter is on the heap, the objects that it may refer to. -/
def elementsOf (env : Env) (n : Node) (arg v : Int) : ElementSet :=
  let t := n.paramType arg
  DistinctList.ofList (.localValue n.id v ::
    if t.isReference || t.isArray then (objectsOf env n v).map .object else [])

/-- The elements of the value of an argument. -/
def valueElements (env : Env) (n : Node) (arg : Int) : Except BadArgument ElementSet :=
  (argument n arg).map (elementsOf env n arg)

/-- The objects from which a binder taints: those that the argument may refer to, or else the
    one that stands for all objects of its type. No object stands for an interface. -/
def binderObjects (env : Env) (n : Node) (arg v : Int) : Logged (List Instance) :=
  match objectsOf env n v with
  | [] =>
    let t := n.paramType arg
    if env.heap.hierarchy.isInterface t then
      ⟨[], env.heap.policy.debug ("argument " ++ toString arg ++ " of " ++ n.method.text ++
        " has interface type " ++ t.name ++ " and points to nothing, no binder flow")⟩
    else
      match env.heap.hierarchy.lookup t with
      | .ok o => ⟨[o], []⟩
      | .error e =>
        ⟨[], env.heap.policy.warning ("argument " ++ toString arg ++ " of " ++ n.method.text ++
          " points to nothing and no object can be synthesized: " ++ e.message)⟩
  -- An object that is known to be there makes the stand-in needless.
  | os => ⟨os, []⟩

/-- Records elements under a flow at all entries of a node. -/
def recordAt (f : Facts) (entries : List ProgramPoint) (t : Flow) (s : ElementSet) : Facts :=
  entries.foldl (fun f p => f.record p t s) f

/-- Adds to the log. -/
def report (r : Resolution) (es : List Log.Entry) : Resolution := { r with log := r.log ++ es }

/-- The closure of an object, remembered where closures are. -/
def closureOf (env : Env) (r : Resolution) (o : Instance) : ElementSet × Resolution :=
  match r.closer? with
  | some c =>
    let x := c.closure env.heap o
    (x.value.1, { r with closer? := some x.value.2, log := r.log ++ x.log })
  | none =>
    let x := env.heap.closure o
    (x.value, r.report x.log)

/-- Resolves an argument of an input. -/
def inputArg (env : Env) (n : Node) (arg v : Int) (r : Resolution) : Resolution :=
  let entries := env.graph.entriesOf n
  let flow := Flow.entryArg n arg
  let s := elementsOf env n arg v
  { r with
    facts := recordAt r.facts entries flow s
    log := r.log ++ env.heap.policy.debug (flow.text ++ ": " ++ toString s.size ++
      " elements for argument " ++ toString arg ++ " at " ++ toString entries.length ++
      " entries of " ++ n.method.text) }

/-- Resolves an argument of a binder on one of its objects. -/
def binderObject (env : Env) (n : Node) (arg v : Int) (r : Resolution) (o : Instance) :
    Resolution :=
  let entries := env.graph.entriesOf n
  let flow := Flow.entryArgBinder o n arg
  let (closure, r) := closureOf env r o
  { r with
    facts := recordAt r.facts entries flow (closure.insert (.localValue n.id v))
    log := r.log ++ env.heap.policy.debug (flow.text ++ ": " ++ toString closure.size ++
      " elements at " ++ toString entries.length ++ " entries") }

/-- Resolves an argument of a binder. -/
def binderArg (env : Env) (n : Node) (arg v : Int) (r : Resolution) : Resolution :=
  let os := binderObjects env n arg v
  os.value.foldl (binderObject env n arg v) (r.report os.log)

/-- Resolves arguments in order, up to the first that the node does not have. -/
def resolveArgs (n : Node) (step : Int → Int → Resolution → Resolution) :
    List Int → Resolution → Resolution × Option BadArgument
  | [], r => (r, none)
  | arg :: args, r =>
    match argument n arg with
    | .error e => (r, some e)
    | .ok v => resolveArgs n step args (step arg v r)

/-- Why a source cannot be resolved on a node. -/
inductive Failure where
  /-- Sources of this kind are not known. -/
  | unimplemented (s : Source)
  /-- An argument of the source is not there. -/
  | badArgument (s : Source) (e : BadArgument)

/-- The wording of the failure. -/
def Failure.message : Failure → String
  | .unimplemented s => Sentinel.unimplementedSpec.text ++ ": " ++ s.text
  | .badArgument s e => s.text ++ ": " ++ e.message

/-- What the failure holds on to. -/
def Failure.chain : Failure → List Sentinel
  | .unimplemented _ => [.unimplementedSpec]
  | .badArgument _ e => e.chain

/-- Resolves a source on a node, whether it names the method or not. -/
def resolve (env : Env) (s : Source) (n : Node) (r : Resolution) : Resolution × Option Failure :=
  match s.kind with
  | .input =>
    let (r, e) := resolveArgs n (inputArg env n) s.args r
    (r, e.map (.badArgument s))
  | .binder =>
    let (r, e) := resolveArgs n (binderArg env n) s.args r
    (r, e.map (.badArgument s))
  | .other _ => (r, some (.unimplemented s))

/-- A failure with the source and the node where it arose. -/
structure Stopped where
  /-- The source. -/
  source : Source
  /-- The node. -/
  node : Node
  /-- Why it cannot be resolved there. -/
  cause : Failure

/-- The wording of the failure. -/
def Stopped.message (e : Stopped) : String :=
  "while resolving " ++ e.source.text ++ " on " ++ e.node.method.text ++ ": " ++ e.cause.message

/-- What the failure holds on to. -/
def Stopped.chain (e : Stopped) : List Sentinel := e.cause.chain

/-- The pairs of a node and a source that names its method: by the number of the node, then by
    the position of the source. -/
def matchingPairs (sources : List Source) (nodes : List Node) : List (Node × Source) :=
  (nodes.mergeSort (fun m n => decide (m.id ≤ n.id))).flatMap
    (fun n => (sources.filter (fun s => s.matches n)).map (fun s => (n, s)))

/-- Resolves pairs in order, up to the first failure, and counts those that were resolved. -/
def resolvePairs (env : Env) :
    List (Node × Source) → Nat → Resolution → Resolution × Nat × Option Stopped
  | [], count, r => (r, count, none)
  | (n, s) :: rest, count, r =>
    -- The match is reported even where the resolution then fails.
    let r := r.report (env.heap.policy.debug (s.text ++ " matches " ++ n.text))
    match resolve env s n r with
    | (r, some e) => (r, count, some ⟨s, n, e⟩)
    | (r, none) => resolvePairs env rest (count + 1) r

/-- Resolves every source on every node whose method it names. Gives the number of pairs that
    were resolved before the first failure. -/
def resolveAll (env : Env) (sources : List Source) (nodes : List Node) (r : Resolution) :
    Resolution × Nat × Option Stopped :=
  resolvePairs env (matchingPairs sources nodes) 0 r

end Resolution

end TaintSeed
