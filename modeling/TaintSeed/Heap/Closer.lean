import TaintSeed.Heap.Closure

/-!
# Remembered Closures

The closure of an object is asked for once for each parameter that may refer
to it. A closer computes it the first time and remembers it. What it gives is
the closure, whatever was asked before; only the log shows the difference,
because nothing is reported twice.

## Main definitions

* `Closer`: The closures computed so far.
* `Closer.closure`: The closure of an object, computed or remembered.
-/

namespace TaintSeed

/-- The closures that have been computed. -/
structure Closer where
  /-- The closure of each object that was asked for. -/
  known : Table Instance ElementSet
deriving Inhabited

namespace Closer

/-- The closer that has computed nothing. -/
def fresh : Closer := ⟨∅⟩

/-- The number of objects that were asked for. -/
def size (c : Closer) : Nat := c.known.size

/-- The closure of `root`, and the closer that remembers it. -/
def closure (h : Heap) (c : Closer) (root : Instance) : Logged (ElementSet × Closer) :=
  match c.known.get? root with
  | some s => ⟨(s, c), []⟩
  | none =>
    let r := h.closure root
    ⟨(r.value, ⟨c.known.set root r.value⟩), r.log ++ h.policy.trace ("closure of " ++ root.text ++
      ": " ++ toString r.value.size ++ " elements")⟩

end Closer

end TaintSeed
