/-!
# Queues

First in, first out. The exploration of the heap takes its next object from a
queue, so it visits objects in the order in which they were met.

## Main definitions

* `Queue`: The waiting items, the next one first.
* `Queue.pop`: The next item and the queue without it.
* `Queue.EmptyError`: Why nothing can be taken from an empty queue.
-/

namespace TaintSeed

/-- The items that wait, the next one first. -/
structure Queue (α : Type) where
  /-- The waiting items in the order in which they leave. -/
  items : List α
deriving DecidableEq, Inhabited

namespace Queue

variable {α : Type}

instance : EmptyCollection (Queue α) := ⟨⟨[]⟩⟩

/-- The one reason why an item cannot be taken: there is none. -/
inductive EmptyError where
  /-- The queue has no item. -/
  | empty
deriving DecidableEq

/-- The wording of the failure. -/
def EmptyError.message : EmptyError → String
  | .empty => "queue is empty"

/-- Adds an item behind all others. -/
def push (q : Queue α) (a : α) : Queue α := ⟨q.items ++ [a]⟩

/-- Adds items behind all others, in order. -/
def pushAll (q : Queue α) (as : List α) : Queue α := ⟨q.items ++ as⟩

/-- Whether no item waits. -/
def isEmpty (q : Queue α) : Bool := q.items.isEmpty

/-- The number of waiting items. -/
def size (q : Queue α) : Nat := q.items.length

/-- The next item, and the queue without it. -/
def pop (q : Queue α) : Except EmptyError (α × Queue α) :=
  match q.items with
  | [] => .error .empty
  | a :: as => .ok (a, ⟨as⟩)

@[simp] theorem items_push (q : Queue α) (a : α) : (q.push a).items = q.items ++ [a] := rfl

/-- Taking an item undoes nothing else: the item and the rest are the queue. -/
theorem pop_eq_ok_iff (q r : Queue α) (a : α) :
    q.pop = .ok (a, r) ↔ q.items = a :: r.items := by
  unfold pop
  cases h : q.items with
  | nil => simp
  | cons b bs =>
    cases r
    simp

end Queue

end TaintSeed
