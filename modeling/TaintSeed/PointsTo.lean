import TaintSeed.Collection.DistinctList
import TaintSeed.Collection.Table
import TaintSeed.Reference
import TaintSeed.Text.Bytes

/-!
# Points-to Sets

Which objects a local value or a field of an object may refer to. The answers
come from a table that another analysis has filled, or there is no such
analysis and every answer is empty.

## Main definitions

* `PointsTo.Key`: A local value of a node, or a field of an object.
* `PointsTo.Table`: The recorded objects of each key.
* `PointsTo.Oracle`: A table, or the absence of one.
* `PointsTo.Oracle.objects`: The objects of a key, by their text.
-/

namespace TaintSeed.PointsTo

/-- What may refer to objects. -/
inductive Key where
  /-- A value of a node of the call graph. -/
  | localValue (node : NodeId) (value : Int)
  /-- A field of an object. -/
  | fieldOf (owner : Instance) (field : FieldRef)
deriving DecidableEq, Inhabited

/-- The text of a key; of a field it shows the name alone. -/
def Key.text : Key → String
  | .localValue node value => "[n" ++ toString node ++ ", v" ++ toString value ++ "]"
  | .fieldOf owner field => "[" ++ owner.text ++ "." ++ field.name ++ "]"

/-- The recorded objects of each key. -/
abbrev Table := TaintSeed.Table Key (DistinctList Instance)

namespace Table

/-- Records objects under a key, which becomes a key of the table even without objects. -/
def add (t : Table) (key : Key) (objects : List Instance) : Table :=
  t.modify key ∅ (fun s => s.insertAll objects)

/-- The objects recorded under a key in the order of their texts. Objects with one text stand in
    the order in which the set is kept, which is that in which they were recorded; another table
    with the same sets may keep them in another order. -/
def objects (t : Table) (key : Key) : List Instance :=
  ((t.get? key).getD ∅).toList.mergeSort (fun a b => Text.Bytes.le a.text b.text)

end Table

/-- What is known about points-to sets. -/
inductive Oracle where
  /-- Nothing: every set is empty. -/
  | silent
  /-- What a table records. -/
  | recorded (table : Table)
deriving Inhabited

namespace Oracle

/-- The objects that a key may refer to. -/
def objects : Oracle → Key → List Instance
  | .silent, _ => []
  | .recorded table, key => Table.objects table key

/-- Every object that some key may refer to. -/
def allObjects : Oracle → List Instance
  | .silent => []
  | .recorded table => table.entries.flatMap (fun e => e.2.toList)

end Oracle

end TaintSeed.PointsTo
