import TaintSeed.Model.Basic
import TaintSeed.Program
import TaintSeed.Text.Keyword
import TaintSeed.TypeRef.SourceText

/-!
# The Program of a Model

A model is turned into a program in three steps: the classes give a hierarchy,
the nodes and edges a call graph, and the points-to sets a table. Each step
checks what it is given, so a model that refers to something that is not there
gives no program.

## Main definitions

* `Model.Invalid`: Why a model gives no program.
* `Model.hierarchy`: The classes of a model.
* `Model.graph`: The call graph of a model, with the nodes by their labels.
* `Model.table`: The points-to sets of a model.
* `Model.program`: The program of a model.
-/

namespace TaintSeed.Model

/-- Why a model gives no program. -/
inductive Invalid where
  /-- A field of a class has no name or no type. -/
  | incompleteField (owner : String)
  /-- The classes are no hierarchy. -/
  | hierarchy (e : Hierarchy.Malformed)
  /-- A node has no label. -/
  | unlabeled (method : Method)
  /-- Two nodes have one label. -/
  | labelTwice (label : String)
  /-- The word for a loader is not known. -/
  | unknownLoader (label loader : String)
  /-- The parameters and their types differ in number. -/
  | paramCount (label : String) (params types : Nat)
  /-- The method is in the graph with the same context. -/
  | nodeTwice (label : String) (there : TaintSeed.Node)
  /-- An edge is not a pair. -/
  | notAPair (edge : List String)
  /-- An edge has a label that no node has. -/
  | unknownNodes (edge : List String)
  /-- An edge cannot be drawn. -/
  | noEdge (e : Graph.NotInGraph)
  /-- A points-to set is that of a node that is not there. -/
  | unknownNode (position : Nat) (label : String)
  /-- A points-to set is that of a field that is not there. -/
  | unknownField (position : Nat) (owner name : String)
  /-- A points-to set is that of neither a value nor a field, or of both. -/
  | ambiguousKey (position : Nat)
deriving DecidableEq

/-- Texts between brackets, with blanks between them. -/
def listed (xs : List String) : String := "[" ++ " ".intercalate xs ++ "]"

/-- The text of the name of a method in a message. -/
def Method.text (m : Method) : String :=
  "\x7b" ++ " ".intercalate [m.package, m.owner, m.name, m.descriptor] ++ "\x7d"

/-- The wording of the refusal. -/
def Invalid.message : Invalid → String
  | .incompleteField owner => "class " ++ owner ++ ": field without name or type"
  | .hierarchy e => e.message
  | .unlabeled method => "node " ++ method.text ++ " has no label"
  | .labelTwice label => "node label " ++ Text.Quoted.quote label ++ " is used twice"
  | .unknownLoader label loader =>
    "node " ++ label ++ ": unknown loader " ++ Text.Quoted.quote loader
  | .paramCount label params types =>
    "node " ++ label ++ ": " ++ toString params ++ " parameters but " ++ toString types ++
      " parameter types"
  | .nodeTwice label there => "node " ++ label ++ ": " ++ there.text ++ " is already in the graph"
  | .notAPair edge => "edge " ++ listed edge ++ " should have a caller and a callee"
  | .unknownNodes edge => "edge " ++ listed edge ++ " refers to unknown nodes"
  | .noEdge e => e.message
  | .unknownNode position label =>
    "points-to entry " ++ toString position ++ ": unknown node " ++ Text.Quoted.quote label
  | .unknownField position owner name =>
    "points-to entry " ++ toString position ++ ": class " ++ owner ++ " has no field " ++ name
  | .ambiguousKey position =>
    "points-to entry " ++ toString position ++ " should have either a local or a field"

/-- The declaration of a class under its canonical name. -/
def Class.decl (c : Class) : Except Invalid ClassDecl :=
  if c.fields.any (fun f => f.name == "" || f.type == "") then .error (.incompleteField c.name)
  else
    .ok
      { name := (TypeRef.parse c.name).name
        super := if c.super = "" then "" else (TypeRef.parse c.super).name
        isInterface := c.isInterface
        fields := c.fields.map (fun f => ⟨f.name, TypeRef.parse f.type⟩) }

/-- The declarations of classes. -/
def decls : List Class → Except Invalid (List ClassDecl)
  | [] => .ok []
  | c :: cs =>
    match c.decl with
    | .error e => .error e
    | .ok d =>
      match decls cs with
      | .error e => .error e
      | .ok ds => .ok (d :: ds)

/-- The classes of a model. -/
def hierarchy (m : Model) : Except Invalid Hierarchy :=
  match decls m.classes with
  | .error e => .error e
  | .ok ds =>
    match Hierarchy.ofClasses ds with
    | .error e => .error (.hierarchy e)
    | .ok h => .ok h

/-- The loader that a word stands for, in upper or lower case. -/
def loader? (word : String) : Option Loader :=
  let w := Text.Keyword.lower word
  if w = "application" || w = "app" then some .application
  else if w = "primordial" || w = "" || w = "library" then some .primordial
  else none

/-- The nodes of a graph by their labels, in the order in which they were placed. -/
abbrev Labels := List (String × TaintSeed.Node)

/-- The node of a label. -/
def Labels.find? (labels : Labels) (label : String) : Option TaintSeed.Node :=
  (List.find? (fun e => e.1 == label) labels).map Prod.snd

/-- The node of the call graph that is described, before it is placed. -/
def Node.described (n : Node) (loader : Loader) : TaintSeed.Node :=
  { id? := none
    method := ⟨n.method.package, n.method.owner, n.method.name, n.method.descriptor⟩
    context := n.context
    loader := loader
    isSynthetic := n.isSynthetic
    params := n.params
    paramTypes := n.paramTypes.map TypeRef.parse
    blocks := n.blocks }

/-- Places a node, with its entries, and as a root if it is one. -/
def addNode (g : Graph) (labels : Labels) (n : Node) : Except Invalid (Graph × Labels) :=
  if n.label = "" then .error (.unlabeled n.method)
  else if (labels.find? n.label).isSome then .error (.labelTwice n.label)
  else
    match loader? n.loader with
    | none => .error (.unknownLoader n.label n.loader)
    | some loader =>
      if !n.paramTypes.isEmpty && n.paramTypes.length ≠ n.params.length then
        .error (.paramCount n.label n.params.length n.paramTypes.length)
      else
        let made := n.described loader
        match g.find? made.method made.context with
        | some there => .error (.nodeTwice n.label there)
        | none =>
          let (g, placed) := g.place made
          let g := if n.entries.isEmpty then g else g.setEntries placed n.entries
          let g := if n.isRoot then g.addRoot placed else g
          .ok (g, labels ++ [(n.label, placed)])

/-- Places nodes in order. -/
def addNodes : List Node → Graph → Labels → Except Invalid (Graph × Labels)
  | [], g, labels => .ok (g, labels)
  | n :: ns, g, labels =>
    match addNode g labels n with
    | .error e => .error e
    | .ok (g, labels) => addNodes ns g labels

/-- Draws an edge between two labels. -/
def addEdge (labels : Labels) (g : Graph) (edge : List String) : Except Invalid Graph :=
  match edge with
  | [caller, callee] =>
    match labels.find? caller, labels.find? callee with
    | some a, some b =>
      match g.connect a b with
      | .error e => .error (.noEdge e)
      | .ok g => .ok g
    | _, _ => .error (.unknownNodes edge)
  | _ => .error (.notAPair edge)

/-- Draws edges in order. -/
def addEdges (labels : Labels) : List (List String) → Graph → Except Invalid Graph
  | [], g => .ok g
  | e :: es, g =>
    match addEdge labels g e with
    | .error e => .error e
    | .ok g => addEdges labels es g

/-- The call graph of a model, with the nodes by their labels. -/
def graph (m : Model) : Except Invalid (Graph × Labels) :=
  match addNodes m.nodes .empty [] with
  | .error e => .error e
  | .ok (g, labels) =>
    match addEdges labels m.edges g with
    | .error e => .error e
    | .ok g => .ok (g, labels)

/-- The object that is described. -/
def Object.described (o : Object) : Instance := ⟨TypeRef.parse o.type, o.site⟩

/-- The field of that name that a class declares itself. -/
def declaredField? (h : Hierarchy) (owner name : String) : Option TaintSeed.FieldRef :=
  let t := TypeRef.parse owner
  (h.instanceFields t).find? (fun f => f.owner == t.name && f.name == name)

/-- What a points-to set is that of. -/
def key (labels : Labels) (h : Hierarchy) (position : Nat) (e : PointsToEntry) :
    Except Invalid PointsTo.Key :=
  match e.local?, e.field? with
  | some l, none =>
    match labels.find? l.node with
    | none => .error (.unknownNode position l.node)
    | some n => .ok (.localValue n.id l.value)
  | none, some f =>
    match declaredField? h f.owner f.name with
    | none => .error (.unknownField position f.owner f.name)
    | some field => .ok (.fieldOf f.object.described field)
  | _, _ => .error (.ambiguousKey position)

/-- Records points-to sets in order. A set without objects leaves no trace. -/
def addSets (labels : Labels) (h : Hierarchy) :
    Nat → List PointsToEntry → PointsTo.Table → Except Invalid PointsTo.Table
  | _, [], t => .ok t
  | position, e :: es, t =>
    match key labels h position e with
    | .error e => .error e
    | .ok k =>
      addSets labels h (position + 1) es
        (e.objects.foldl (fun t o => PointsTo.Table.add t k [o.described]) t)

/-- The points-to sets of a model. -/
def table (m : Model) (labels : Labels) (h : Hierarchy) : Except Invalid PointsTo.Table :=
  addSets labels h 0 m.pointsTo ∅

/-- The program of a model. -/
def program (m : Model) : Except Invalid Program :=
  match m.hierarchy with
  | .error e => .error e
  | .ok h =>
    match m.graph with
    | .error e => .error e
    | .ok (g, labels) =>
      match m.table labels h with
      | .error e => .error e
      | .ok t => .ok ⟨g, some (.recorded t), some h, m.warnings⟩

end TaintSeed.Model
