import Mathlib.Logic.Basic
import TaintSeed.Heap.Closer

/-!
# Remembered Closures Are Closures

A closer answers from a table. The table is filled by the closer alone, so
whatever is in it has been computed for the same heap, and an answer from
memory is the answer that a new computation would give.

## Main definitions

* `Closer.ObtainedFrom`: The closer has been asked for closures in a heap, and nothing else.
* `Closer.Faithful`: What the closer remembers are closures in a heap.

## Theorems

* `Closer.closure_faithful`: Asking for a closure keeps a closer faithful.
* `Closer.ObtainedFrom.faithful`: A closer that was obtained by asking is faithful.
* `Closer.closure_value`: A faithful closer answers with the closure.
-/

namespace TaintSeed

namespace Closer

/-- The closer arises from the one that has computed nothing by asking for closures in `h`. -/
inductive ObtainedFrom (h : Heap) : Closer → Prop
  /-- The closer that has computed nothing. -/
  | fresh : ObtainedFrom h .fresh
  /-- The closer after it has been asked for a closure. -/
  | ask {c : Closer} (root : Instance) (obtained : ObtainedFrom h c) :
      ObtainedFrom h (c.closure h root).value.2

/-- Whatever the closer remembers of an object is its closure in `h`. -/
def Faithful (h : Heap) (c : Closer) : Prop :=
  ∀ root s, c.known.get? root = some s → s = (h.closure root).value

/-- A faithful closer answers with the closure, whether it remembers it or not. -/
theorem closure_value (h : Heap) (c : Closer) (root : Instance) (hc : c.Faithful h) :
    (c.closure h root).value.1 = (h.closure root).value := by
  unfold closure
  split
  · rename_i s hs
    exact hc root s hs
  · rfl

/-- What is remembered after an answer is a closure again. -/
theorem closure_faithful (h : Heap) (c : Closer) (root : Instance) (hc : c.Faithful h) :
    (c.closure h root).value.2.Faithful h := by
  unfold closure
  split
  · exact hc
  · intro o s hs
    rw [Table.get?_set] at hs
    split at hs
    · rename_i ho
      rw [← ho, ← Option.some.inj hs]
    · exact hc o s hs

theorem ObtainedFrom.faithful {h : Heap} {c : Closer} (hc : c.ObtainedFrom h) : c.Faithful h := by
  induction hc with
  | fresh =>
      intro root s hs
      cases hs
  | ask root _ ih => exact closure_faithful h _ root ih

end Closer

end TaintSeed
