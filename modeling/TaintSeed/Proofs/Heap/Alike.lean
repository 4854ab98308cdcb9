import TaintSeed.Proofs.Heap.Printing
import TaintSeed.Proofs.Heap.Search
import TaintSeed.Proofs.PointsTo

/-!
# Heaps That Know the Same

A points-to set has no order. Its members are listed by their texts, and where
texts are equal the order is whatever order the set is kept in, which may be
another one in the next run. Two heaps are `Alike` when they list the same
members for every key and have the same classes. They may list them in another
order, and they may print by another policy.

A search over one of them meets the objects in another order than a search over
the other. What it finds is the same, because both find what is `Tainted`, and
that is said without an order.

What is printed on the way does show the order. It is fixed when the texts tell
the objects of each set apart, and then the two heaps differ in their policies
at most.

## Main definitions

* `Heap.Alike`: Two heaps have the same points-to sets and the same classes.

## Theorems

* `Heap.Alike.mem_closure_iff`: They have the same closures.
* `Heap.Alike.quieter`: Without ties they list objects in the same order.
-/

namespace TaintSeed

namespace Heap

/-- The heaps have the same points-to sets and the same classes. -/
structure Alike (h h' : Heap) : Prop where
  /-- Under every key there are the same objects. -/
  objects : ∀ key o, o ∈ h.pointsTo.objects key ↔ o ∈ h'.pointsTo.objects key
  /-- The classes are the same. -/
  hierarchy : h.hierarchy = h'.hierarchy

namespace Alike

variable {h h' : Heap}

theorem symm (ha : h.Alike h') : h'.Alike h :=
  ⟨fun key o => (ha.objects key o).symm, ha.hierarchy.symm⟩

theorem objects_eq_nil_iff (ha : h.Alike h') (key : PointsTo.Key) :
    h.pointsTo.objects key = [] ↔ h'.pointsTo.objects key = [] := by
  simp only [List.eq_nil_iff_forall_not_mem, ha.objects key]

theorem placed (ha : h.Alike h') {owner o : Instance} {field : FieldRef}
    (hp : h.Placed owner field o) : h'.Placed owner field o := by
  rcases hp with ⟨hnone, hinterface, hlookup⟩
  rw [ha.hierarchy] at hinterface hlookup
  exact ⟨(ha.objects_eq_nil_iff _).1 hnone, hinterface, hlookup⟩

theorem explored (ha : h.Alike h') {root o : Instance} (ho : h.Explored root o) :
    h'.Explored root o := by
  induction ho with
  | root => exact .root
  | pointed _ noArray mem reference points ih =>
      exact .pointed ih noArray (ha.hierarchy ▸ mem) reference ((ha.objects _ _).1 points)
  | placed _ noArray mem reference placed ih =>
      exact .placed ih noArray (ha.hierarchy ▸ mem) reference (ha.placed placed)

theorem tainted (ha : h.Alike h') {root : Instance} {e : Element} (he : h.Tainted root e) :
    h'.Tainted root e := by
  cases he with
  | object explored => exact .object (ha.explored explored)
  | field explored noArray mem known =>
      exact .field (ha.explored explored) noArray (ha.hierarchy ▸ mem) known
  | array explored noArray mem array points =>
      exact .array (ha.explored explored) noArray (ha.hierarchy ▸ mem) array
        ((ha.objects _ _).1 points)
  | arrayPlaceholder explored noArray mem array unknown lookup =>
      exact .arrayPlaceholder (ha.explored explored) noArray (ha.hierarchy ▸ mem) array
        ((ha.objects_eq_nil_iff _).1 unknown) (ha.hierarchy ▸ lookup)

/-- Heaps that know the same have the same closures. -/
theorem mem_closure_iff (ha : h.Alike h') (root : Instance) (e : Element) :
    e ∈ (h.closure root).value ↔ e ∈ (h'.closure root).value := by
  rw [mem_closure_iff_tainted, mem_closure_iff_tainted]
  exact ⟨ha.tainted, ha.symm.tainted⟩

/-- Where no two objects of a set have one text, the order in which a set is kept is not seen. -/
theorem quieter (ha : h.Alike h') (hu : h.pointsTo.Untied) (hfull : h'.policy = .everything) :
    h.Quieter h' :=
  ⟨PointsTo.Oracle.objects_eq_of_untied ha.objects hu, ha.hierarchy, hfull⟩

end Alike

end Heap

end TaintSeed
