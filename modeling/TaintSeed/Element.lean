import TaintSeed.Collection.DistinctList
import TaintSeed.Reference
import TaintSeed.Text.Bytes
import TaintSeed.Text.Quoted

/-!
# Elements of the Taint Domain

What can be tainted: a local value of a method, a field of an object, or an
object as a whole. Three constructors check what they are given, for elements
that come from outside; inside the analysis elements are made directly.

A list of elements handed over from outside may have gaps. A gap is an element
of its own, `absent`, which the checking constructors never make and which a
map of facts refuses when it is given alone.

## Main definitions

* `Element`: A local value, a field of an object, an object, or a gap.
* `Element.ofLocal`, `Element.ofField`, `Element.ofObject`: The checking constructors.
* `Element.Invalid`: Why there is no such element.
* `ElementSet`: A finite set of elements.
* `ElementSet.sorted`: The elements by their text.
-/

namespace TaintSeed

/-- What can be tainted. -/
inductive Element where
  /-- A value of a node of the call graph, by its number. -/
  | localValue (node : NodeId) (value : Int)
  /-- A field of an object. -/
  | fieldOf (owner : Instance) (field : FieldRef)
  /-- An object as a whole. -/
  | object (which : Instance)
  /-- A gap in a list of elements. -/
  | absent
deriving DecidableEq, Inhabited

namespace Element

/-- The text of an element, by which elements are sorted. -/
def text : Element → String
  | .localValue node value => "local(n" ++ toString node ++ ", v" ++ toString value ++ ")"
  | .fieldOf owner field => "field(" ++ owner.text ++ ", " ++ field.text ++ ")"
  | .object which => "instance(" ++ which.text ++ ")"
  | .absent => "<nil>"

/-- Why something is no element. -/
inductive Invalid where
  /-- The number of the node or of the value is negative. -/
  | negativeLocal (value : Int) (node : NodeId)
  /-- The object that owns the field has no type. -/
  | untypedOwner (field : FieldRef)
  /-- The field lacks its class, its name or its type. -/
  | unresolvedField (field : FieldRef)
  /-- The object has no type. -/
  | untypedObject
deriving DecidableEq

/-- The wording of the refusal. -/
def Invalid.message : Invalid → String
  | .negativeLocal value node =>
    "invalid domain element: local v" ++ toString value ++ " in node " ++ toString node
  | .untypedOwner field =>
    "invalid domain element: field " ++ field.text ++ " on an untyped instance"
  | .unresolvedField field =>
    "invalid domain element: unresolved field " ++ Text.Quoted.quote field.text
  | .untypedObject => "invalid domain element: untyped instance"

/-- The element of a local value whose numbers are not negative. -/
def ofLocal (node : NodeId) (value : Int) : Except Invalid Element :=
  if node < 0 ∨ value < 0 then .error (.negativeLocal value node)
  else .ok (.localValue node value)

/-- The element of a resolved field of a typed object. -/
def ofField (owner : Instance) (field : FieldRef) : Except Invalid Element :=
  if owner.type.isNameless then .error (.untypedOwner field)
  else if field.isResolved then .ok (.fieldOf owner field)
  else .error (.unresolvedField field)

/-- The element of a typed object. -/
def ofObject (which : Instance) : Except Invalid Element :=
  if which.type.isNameless then .error .untypedObject else .ok (.object which)

end Element

/-- A finite set of elements. -/
abbrev ElementSet := DistinctList Element

namespace ElementSet

/-- The elements in the order of their texts; elements with one text keep their order. -/
def sorted (s : ElementSet) : List Element :=
  s.toList.mergeSort (fun a b => Text.Bytes.le a.text b.text)

/-- Whether there is a gap among the elements. -/
def hasGap (s : ElementSet) : Bool := s.contains .absent

end ElementSet

end TaintSeed
