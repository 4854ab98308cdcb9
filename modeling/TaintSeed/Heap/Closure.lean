import TaintSeed.Collection.Queue
import TaintSeed.Element
import TaintSeed.Hierarchy
import TaintSeed.Log
import TaintSeed.PointsTo

/-!
# Heap Closures

The elements that are tainted when an object is: the object, its fields, the
objects that its fields may refer to, their fields, and so on. Where nothing is
known about what a field refers to, the object that stands for all objects of
the field's type takes its place.

What one object contributes is a value of its own, `Contribution`: elements,
the objects to look at next, and what is printed. The contribution of an object is
that of its fields one after the other. The closure is then a plain search: it
takes the next object from a queue, adds what the object contributes, and
queues those of the reached objects that it has not met before.

Arrays are treated as a whole: the array objects that a field refers to are
elements of the closure, but what is in them is not looked at.

Every object that the search meets is the root, or recorded in the points-to
table, or stands for the type of a declared field. That is a finite list, and
its length bounds the number of rounds.

## Main definitions

* `Heap`: What is known about objects, points-to sets and the class hierarchy, with the policy.
* `Heap.ofField`: What a field of an object contributes.
* `Heap.contribution`: What an object contributes.
* `Heap.closure`: The elements that are tainted with an object.
-/

namespace TaintSeed

/-- What is known about the objects of a program, and who is told about them. -/
structure Heap where
  /-- What local values and fields may refer to. -/
  pointsTo : PointsTo.Oracle
  /-- The classes of the objects. -/
  hierarchy : Hierarchy
  /-- What is printed of what there is to tell. -/
  policy : Log.Policy
deriving Inhabited

namespace Heap

/-- What an object, or a field of an object, adds to a closure. -/
structure Contribution where
  /-- The elements that are tainted. -/
  elements : List Element
  /-- The objects to look at. -/
  reached : List Instance
  /-- What is printed. -/
  log : List Log.Entry
deriving Inhabited

namespace Contribution

/-- Two contributions one after the other. -/
def append (a b : Contribution) : Contribution :=
  ⟨a.elements ++ b.elements, a.reached ++ b.reached, a.log ++ b.log⟩

instance : Append Contribution := ⟨append⟩

/-- Several contributions one after the other. -/
def concat : List Contribution → Contribution
  | [] => ⟨[], [], []⟩
  | c :: cs => c ++ concat cs

end Contribution

/-- The objects that a field of an object may refer to. -/
def fieldObjects (h : Heap) (owner : Instance) (field : FieldRef) : List Instance :=
  h.pointsTo.objects (.fieldOf owner field)

/-- The report that no object stands for the type of a field. -/
def noPlaceholder (h : Heap) (field : FieldRef) (e : Hierarchy.LookupFailure) : List Log.Entry :=
  h.policy.warning
    ("could not synthesize an object for field " ++ field.text ++ ": " ++ e.message)

/-- A field of array type contributes itself and the arrays that it may refer to. -/
def ofArrayField (h : Heap) (owner : Instance) (field : FieldRef) : Contribution :=
  match h.fieldObjects owner field with
  | [] =>
    match h.hierarchy.lookup field.type with
    -- The array is tainted, but it has no fields, so there is nothing to look at next.
    | .ok o => ⟨[.fieldOf owner field, .object o], [], []⟩
    | .error e => ⟨[.fieldOf owner field], [], h.noPlaceholder field e⟩
  | os => ⟨.fieldOf owner field :: os.map .object, [], []⟩

/-- A field of a class or interface type contributes itself and the objects that it may refer to,
    which are looked at next. No object stands for an interface. -/
def ofReferenceField (h : Heap) (owner : Instance) (field : FieldRef) : Contribution :=
  match h.fieldObjects owner field with
  | [] =>
    if h.hierarchy.isInterface field.type then
      ⟨[.fieldOf owner field], [], h.policy.trace ("no placeholder for field " ++ field.text ++
        " of interface type " ++ field.type.name)⟩
    else
      match h.hierarchy.lookup field.type with
      | .ok o => ⟨[.fieldOf owner field, .object o], [o], []⟩
      | .error e => ⟨[.fieldOf owner field], [], h.noPlaceholder field e⟩
  | os => ⟨.fieldOf owner field :: os.map .object, os, []⟩

/-- What a field of an object contributes. A field whose type is of no known kind is skipped. -/
def ofField (h : Heap) (owner : Instance) (field : FieldRef) : Contribution :=
  match field.type.kind with
  | .primitive => ⟨[.fieldOf owner field], [], []⟩
  | .array => h.ofArrayField owner field
  | .reference => h.ofReferenceField owner field
  | _ => ⟨[], [], h.policy.warning ("field " ++ field.text ++ " of " ++ owner.text ++
      " has a type of unknown kind " ++ Text.Quoted.quote field.type.name ++ ", skipping it")⟩

/-- What an object contributes: itself and, unless it is an array, its fields. -/
def contribution (h : Heap) (o : Instance) : Contribution :=
  ⟨[.object o], [], []⟩ ++
    if o.type.isArray then .concat []
    else .concat ((h.hierarchy.instanceFields o.type).map (h.ofField o))

/-- The state of the search for a closure. -/
structure Search where
  /-- The elements found so far. -/
  elements : ElementSet
  /-- The objects met so far, whether looked at or waiting. -/
  visited : DistinctList Instance
  /-- The objects that wait to be looked at. -/
  pending : Queue Instance
  /-- What has been printed so far. -/
  log : List Log.Entry
deriving Inhabited

namespace Search

/-- Queues an object, unless it has been met. -/
def enqueue (s : Search) (o : Instance) : Search :=
  if s.visited.contains o then s
  else { s with visited := s.visited.insert o, pending := s.pending.push o }

/-- The search that has met the root and found nothing. -/
def start (root : Instance) : Search := enqueue ⟨∅, ∅, ∅, []⟩ root

/-- Looks at an object that has been taken from the queue. -/
def visit (h : Heap) (s : Search) (o : Instance) : Search :=
  let c := h.contribution o
  c.reached.foldl enqueue
    { s with elements := s.elements.insertAll c.elements, log := s.log ++ c.log }

/-- One round: takes the next object and looks at it. Nothing if no object waits. -/
def round? (h : Heap) (s : Search) : Option Search :=
  match s.pending.pop with
  | .error _ => none
  | .ok (o, rest) => some (visit h { s with pending := rest } o)

/-- Rounds until no object waits, at most `fuel` of them. -/
def run (h : Heap) : Nat → Search → Search
  | 0, s => s
  | fuel + 1, s =>
    match round? h s with
    | none => s
    | some s => run h fuel s

end Search

/-- The objects that a search from `root` can meet. -/
def candidates (h : Heap) (root : Instance) : List Instance :=
  root :: h.pointsTo.allObjects ++
    h.hierarchy.classes.flatMap (fun c => c.fields.map (fun f => Instance.ofType f.type))

/-- The elements that are tainted with `root`, and what is printed about them. -/
def closure (h : Heap) (root : Instance) : Logged ElementSet :=
  -- No candidate is queued twice, so there are at most as many rounds as candidates.
  let s := Search.run h ((h.candidates root).length + 1) (.start root)
  ⟨s.elements, s.log⟩

end Heap

end TaintSeed
