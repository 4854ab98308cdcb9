import TaintSeed.Heap.Closer
import TaintSeed.Proofs.Heap.Rounds
import TaintSeed.Proofs.Log

/-!
# A Policy Does Not Steer the Search

The search for a closure tells about fields as it looks at them, and each time
the policy of the heap is asked. What is printed must not have a part in what is
found. It is compared with what a heap prints that knows the same and holds
nothing back: `h.Quieter h'`.

The state of a search holds elements, objects and what was printed, and
`filtered` takes from it what a policy does not allow. Each step of the search
goes through `filtered`: to look at an object and then to filter is to filter
and then to look at it by the quieter heap. So is every number of rounds, and
the elements are not touched on either side.

Two heaps that answer the same may still record different things, under keys
that nobody asks for, and the number of rounds that a closure may take is read
off what is recorded. But rounds beyond the last object change nothing
(`closure_eq_run`), so both can be given the same number of them.

## Main definitions

* `Heap.Quieter`: A heap prints by its policy, another one prints everything.
* `Logged.filtered`, `Heap.Search.filtered`: What a policy allows of what was printed.

## Theorems

* `Heap.Quieter.contribution_eq`: What an object contributes is filtered.
* `Heap.Quieter.run_eq`: Rounds go through the filter.
* `Heap.Quieter.closure_eq`: The elements of a closure are the same, what is printed is filtered.
-/

namespace TaintSeed

/-- The value, with what a policy allows of what was printed. -/
def Logged.filtered {α : Type} (q : Log.Policy) (x : Logged α) : Logged α :=
  ⟨x.value, q.allowed x.log⟩

namespace Heap

/-- The heaps give the same answers, in the same order, and the second one prints everything. -/
structure Quieter (h h' : Heap) : Prop where
  /-- Under every key the same objects are listed. -/
  objects : ∀ key, h.pointsTo.objects key = h'.pointsTo.objects key
  /-- The classes are the same. -/
  hierarchy : h.hierarchy = h'.hierarchy
  /-- The second heap holds nothing back. -/
  full : h'.policy = .everything

/-- What is allowed of a contribution. -/
def Contribution.filtered (q : Log.Policy) (c : Contribution) : Contribution :=
  { c with log := q.allowed c.log }

/-- What is allowed of what a search has printed. -/
def Search.filtered (q : Log.Policy) (s : Search) : Search := { s with log := q.allowed s.log }

theorem Contribution.filtered_append (q : Log.Policy) (a b : Contribution) :
    (a ++ b).filtered q = a.filtered q ++ b.filtered q :=
  congrArg (Contribution.mk _ _) (q.allowed_append a.log b.log)

theorem Contribution.filtered_concat (q : Log.Policy) (cs : List Contribution) :
    (concat cs).filtered q = concat (cs.map (filtered q)) := by
  induction cs with
  | nil => rfl
  | cons c cs ih =>
      rw [concat, filtered_append, ih]
      rfl

theorem Search.filtered_enqueue (q : Log.Policy) (s : Search) (o : Instance) :
    (s.enqueue o).filtered q = (s.filtered q).enqueue o := by
  unfold enqueue
  split
  · rename_i hmet
    exact (if_pos hmet).symm
  · rename_i hnew
    exact (if_neg hnew).symm

theorem Search.filtered_foldl (q : Log.Policy) (os : List Instance) (s : Search) :
    (os.foldl enqueue s).filtered q = os.foldl enqueue (s.filtered q) := by
  induction os generalizing s with
  | nil => rfl
  | cons o os ih => rw [List.foldl_cons, List.foldl_cons, ih, filtered_enqueue]

/-- A search that may go on for longer than there are candidates ends in the same way. -/
theorem closure_eq_run (h : Heap) (root : Instance) (fuel : Nat)
    (hfuel : (h.candidates root).length < fuel) :
    h.closure root = ⟨(Search.run h fuel (.start root)).elements,
      (Search.run h fuel (.start root)).log⟩ := by
  rcases Search.run_progress h root ((h.candidates root).length + 1) [] (.start root)
    (Search.start_progress h root) (by simp) with ⟨_, _, hitems⟩
  have hloop : Search.Loop h root [] (.start root) := .start
  rcases hloop.run ((h.candidates root).length + 1) with ⟨all, hall, _⟩
  have hle := hall.length_taken_le
  -- Once nothing waits, a round changes nothing.
  have hrest : ∀ (s : Search) (n : Nat), s.pending.items = [] → Search.run h n s = s := by
    intro s n hnone
    have hstop : Search.round? h s = none := by rw [Search.round?, Queue.pop, hnone]
    cases n with
    | zero => rfl
    | succ n => rw [Search.run, hstop]
  have hsame := hall.run_eq (fuel - all.length)
  rw [Nat.add_sub_cancel' (by omega), hrest _ _ hitems] at hsame
  rw [hsame]
  rfl

namespace Quieter

variable {h h' : Heap}

theorem warning_eq (hq : h.Quieter h') (message : String) :
    h.policy.warning message = h.policy.allowed (h'.policy.warning message) := by
  rw [hq.full]
  exact h.policy.warning_eq_allowed message

theorem debug_eq (hq : h.Quieter h') (message : String) :
    h.policy.debug message = h.policy.allowed (h'.policy.debug message) := by
  rw [hq.full]
  exact h.policy.debug_eq_allowed message

theorem trace_eq (hq : h.Quieter h') (message : String) :
    h.policy.trace message = h.policy.allowed (h'.policy.trace message) := by
  rw [hq.full]
  exact h.policy.trace_eq_allowed message

/-! ## What an object contributes -/

theorem ofArrayField_eq (hq : h.Quieter h') (owner : Instance) (field : FieldRef) :
    h.ofArrayField owner field = (h'.ofArrayField owner field).filtered h.policy := by
  unfold ofArrayField fieldObjects
  rw [hq.objects, hq.hierarchy]
  split
  · split
    · rfl
    · exact congrArg (Contribution.mk _ _) (hq.warning_eq _)
  · rfl

theorem ofReferenceField_eq (hq : h.Quieter h') (owner : Instance) (field : FieldRef) :
    h.ofReferenceField owner field = (h'.ofReferenceField owner field).filtered h.policy := by
  unfold ofReferenceField fieldObjects
  rw [hq.objects, hq.hierarchy]
  split
  · split
    · exact congrArg (Contribution.mk _ _) (hq.trace_eq _)
    · split
      · rfl
      · exact congrArg (Contribution.mk _ _) (hq.warning_eq _)
  · rfl

theorem ofField_eq (hq : h.Quieter h') (owner : Instance) (field : FieldRef) :
    h.ofField owner field = (h'.ofField owner field).filtered h.policy := by
  unfold ofField
  split
  · rfl
  · exact hq.ofArrayField_eq owner field
  · exact hq.ofReferenceField_eq owner field
  · exact congrArg (Contribution.mk _ _) (hq.warning_eq _)

/-- The same elements and objects come from an object, and what is printed is filtered. -/
theorem contribution_eq (hq : h.Quieter h') (o : Instance) :
    h.contribution o = (h'.contribution o).filtered h.policy := by
  unfold contribution
  rw [Contribution.filtered_append]
  split
  · rfl
  · have hfields : (h.hierarchy.instanceFields o.type).map (h.ofField o)
        = ((h'.hierarchy.instanceFields o.type).map (h'.ofField o)).map
            (Contribution.filtered h.policy) := by
      rw [hq.hierarchy, List.map_map]
      exact List.map_congr_left fun field _ => hq.ofField_eq o field
    rw [hfields, Contribution.filtered_concat]
    rfl

/-! ## Rounds -/

theorem visit_eq (hq : h.Quieter h') (s : Search) (o : Instance) :
    Search.visit h (s.filtered h.policy) o = (Search.visit h' s o).filtered h.policy := by
  unfold Search.visit
  rw [Search.filtered_foldl, hq.contribution_eq o]
  dsimp only [Search.filtered, Contribution.filtered]
  rw [h.policy.allowed_append]

theorem round?_eq (hq : h.Quieter h') (s : Search) :
    Search.round? h (s.filtered h.policy)
      = (Search.round? h' s).map (Search.filtered h.policy) := by
  have hpending : (s.filtered h.policy).pending = s.pending := rfl
  unfold Search.round?
  rw [hpending]
  split
  · rfl
  · rename_i o rest _
    exact congrArg some (hq.visit_eq { s with pending := rest } o)

/-- As many rounds of both heaps lead to the same state, up to what is printed. -/
theorem run_eq (hq : h.Quieter h') (fuel : Nat) (s : Search) :
    Search.run h fuel (s.filtered h.policy) = (Search.run h' fuel s).filtered h.policy := by
  induction fuel generalizing s with
  | zero => rfl
  | succ fuel ih =>
      rw [Search.run, Search.run, hq.round?_eq]
      cases Search.round? h' s with
      | none => rfl
      | some s' => exact ih s'

/-- A closure has the same elements, and what is printed about it is filtered. -/
theorem closure_eq (hq : h.Quieter h') (root : Instance) :
    h.closure root = (h'.closure root).filtered h.policy := by
  have hstart : Search.start root = (Search.start root).filtered h.policy :=
    (Search.filtered_enqueue h.policy ⟨∅, ∅, ∅, []⟩ root).symm
  -- The heaps may record different numbers of objects, so both get rounds enough for either.
  let fuel := (h.candidates root).length + (h'.candidates root).length + 1
  rw [h.closure_eq_run root fuel (by omega), h'.closure_eq_run root fuel (by omega), hstart,
    hq.run_eq]
  rfl

end Quieter

end Heap

/-- What is remembered does not depend on what is printed. -/
theorem Closer.closure_quieter {h h' : Heap} (hq : h.Quieter h') (c : Closer) (root : Instance) :
    c.closure h root = (c.closure h' root).filtered h.policy := by
  unfold closure
  cases c.known.get? root with
  | some s => rfl
  | none =>
      dsimp only [Logged.filtered]
      rw [hq.closure_eq root, hq.trace_eq, h.policy.allowed_append]
      rfl

end TaintSeed
