import Mathlib.Logic.Basic
import TaintSeed.Facts

/-!
# Facts as Triples

A map of facts is two tables deep, but what it says is a set of triples: at a
point, a flow taints an element. `Holds` is this reading, and the lemmas give
the triples after each way to record facts. The proofs about sources and
closures speak of triples only.

## Main definitions

* `Facts.Holds`: The fact is in the map.

## Theorems

* `Facts.holds_insertAll`: The facts after adding elements under a flow at a point.
* `Facts.holds_record`: The same for a set, of which the empty one records nothing.
-/

namespace TaintSeed

namespace Facts

/-- At the point `p` the flow `t` taints the element `e`. -/
def Holds (f : Facts) (p : ProgramPoint) (t : Flow) (e : Element) : Prop := e ∈ f.elementsAt p t

/-- Adding elements adds their triples, and no others. -/
theorem holds_insertAll (f : Facts) (q p : ProgramPoint) (u t : Flow) (es : List Element)
    (e : Element) :
    (f.insertAll q u es).Holds p t e ↔ f.Holds p t e ∨ p = q ∧ t = u ∧ e ∈ es := by
  unfold Holds elementsAt insertAll
  rw [Table.get?_modify]
  by_cases hp : q = p
  · subst hp
    rw [if_pos rfl, Option.getD_some, Table.get?_modify]
    by_cases ht : u = t
    · subst ht
      rw [if_pos rfl, Option.getD_some, DistinctList.mem_insertAll]
      simp
    · -- Another flow at the same point keeps its elements.
      rw [if_neg ht]
      have hne : t ≠ u := Ne.symm ht
      simp [hne]
  · rw [if_neg hp]
    have hne : p ≠ q := Ne.symm hp
    simp [hne]

/-- Recording a set adds the triples of its elements. -/
theorem holds_record (f : Facts) (q p : ProgramPoint) (u t : Flow) (s : ElementSet) (e : Element) :
    (f.record q u s).Holds p t e ↔ f.Holds p t e ∨ p = q ∧ t = u ∧ e ∈ s := by
  unfold record
  split
  · rename_i hempty
    have hnil : s.toList = [] := List.isEmpty_iff.1 hempty
    have hnone : e ∉ s := by
      rw [← DistinctList.mem_toList, hnil]
      exact List.not_mem_nil
    simp [hnone]
  · rw [holds_insertAll, DistinctList.mem_toList]

end Facts

end TaintSeed
