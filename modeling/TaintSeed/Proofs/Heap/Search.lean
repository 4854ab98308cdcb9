import TaintSeed.Proofs.Heap.Explored

/-!
# The Search Computes the Closure

The work list finds exactly the tainted elements.

The objects met so far are kept in the order in which they were met, and the
queue gives them back in the same order. So the list of visited objects is at
all times the objects that have been looked at followed by the objects that
wait, and because the list has no repetitions, no object waits twice and none
is queued again after it has been looked at. `Progress` is this fact together
with what has been found: the elements are those that the objects looked at
contribute, and what these objects lead to has been met.

One round moves the first waiting object over to the others. The rounds end
because every object met is a candidate: `run_progress` is the induction on
the rounds that are left, and when nothing waits any more the visited objects
hold the root and are closed, so they are the explored ones.

## Main definitions

* `Heap.Search.Progress`: The state of the search after looking at given objects.

## Theorems

* `Heap.Search.enqueue_all`: What queueing several objects does.
* `Heap.Search.round?_progress`: One round looks at one more object.
* `Heap.Search.run_progress`: The rounds end with an empty queue.
* `Heap.Search.visited_iff_explored`: At the end the explored objects are visited.
* `Heap.mem_closure_iff`: The closure is what explored objects contribute.
* `Heap.mem_closure_iff_tainted`: The closure is the set of tainted elements.
-/

namespace TaintSeed

namespace Heap

namespace Search

/-- The search has looked at the objects `done`, in this order. -/
structure Progress (h : Heap) (root : Instance) (done : List Instance) (s : Search) : Prop where
  /-- The visited objects are those looked at, then those that wait. -/
  visited : s.visited.toList = done ++ s.pending.items
  /-- The root has been met. -/
  rootMet : root ∈ s.visited
  /-- Only explored objects have been met. -/
  explored : ∀ o ∈ s.visited, h.Explored root o
  /-- What the objects looked at lead to has been met. -/
  closed : ∀ owner ∈ done, ∀ o ∈ (h.contribution owner).reached, o ∈ s.visited
  /-- The elements are what the objects looked at contribute. -/
  elements : ∀ e, e ∈ s.elements ↔ ∃ o ∈ done, e ∈ (h.contribution o).elements

/-- An object that has been met stays where it is. -/
theorem enqueue_of_mem (s : Search) (o : Instance) (ho : o ∈ s.visited) : enqueue s o = s := by
  rw [enqueue, if_pos (DistinctList.contains_iff.2 ho)]

/-- A new object is noted as met and put at the end of the queue. -/
theorem enqueue_of_not_mem (s : Search) (o : Instance) (ho : o ∉ s.visited) :
    enqueue s o = { s with visited := s.visited.insert o, pending := s.pending.push o } := by
  rw [enqueue, if_neg (fun hc => ho (DistinctList.contains_iff.1 hc))]

theorem mem_visited_enqueue (s : Search) (o p : Instance) :
    p ∈ (enqueue s o).visited ↔ p ∈ s.visited ∨ p = o := by
  by_cases ho : o ∈ s.visited
  · rw [enqueue_of_mem s o ho]
    exact ⟨Or.inl, fun hp => hp.elim id (fun heq => heq ▸ ho)⟩
  · rw [enqueue_of_not_mem s o ho]
    exact DistinctList.mem_insert

theorem mem_visited_enqueue_all (os : List Instance) (s : Search) (p : Instance) :
    p ∈ (os.foldl enqueue s).visited ↔ p ∈ s.visited ∨ p ∈ os := by
  induction os generalizing s with
  | nil => simp
  | cons o os ih => rw [List.foldl_cons, ih, mem_visited_enqueue, List.mem_cons, or_assoc]

/-- Queueing objects puts those that are new behind the visited ones and behind the waiting ones,
    in the same order. The elements stay as they are. -/
theorem enqueue_all (os : List Instance) (s : Search) :
    (os.foldl enqueue s).elements = s.elements ∧
      ∃ new, (os.foldl enqueue s).visited.toList = s.visited.toList ++ new ∧
        (os.foldl enqueue s).pending.items = s.pending.items ++ new := by
  induction os generalizing s with
  | nil => exact ⟨rfl, [], by simp⟩
  | cons o os ih =>
      rw [List.foldl_cons]
      by_cases ho : o ∈ s.visited
      · rw [enqueue_of_mem s o ho]
        exact ih s
      · rcases ih (enqueue s o) with ⟨he, new, hv, hp⟩
        rw [enqueue_of_not_mem s o ho] at he hv hp ⊢
        refine ⟨he, o :: new, ?_, ?_⟩
        · rw [hv, DistinctList.toList_insert_of_not_mem ho, List.append_assoc,
            List.singleton_append]
        · rw [hp, Queue.items_push, List.append_assoc, List.singleton_append]

/-- The search that has met the root and looked at nothing. -/
theorem start_progress (h : Heap) (root : Instance) : Progress h root [] (start root) := by
  have hvisited : (start root).visited.toList = [root] := rfl
  have hpending : (start root).pending.items = [root] := rfl
  have hmem : ∀ o, o ∈ (start root).visited ↔ o = root := by
    intro o
    rw [← DistinctList.mem_toList, hvisited, List.mem_singleton]
  refine ⟨?_, (hmem root).2 rfl, ?_, ?_, ?_⟩
  · rw [hvisited, hpending, List.nil_append]
  · intro o ho
    rw [(hmem o).1 ho]
    exact .root
  · intro owner ho
    exact absurd ho List.not_mem_nil
  · intro e
    have hnone : (start root).elements = ∅ := rfl
    simp [hnone]

/-- One round looks at the first of the waiting objects. -/
theorem round?_progress (h : Heap) (root o : Instance) (done rest : List Instance) (s : Search)
    (hs : Progress h root done s) (ho : s.pending.items = o :: rest) :
    ∃ s', round? h s = some s' ∧ Progress h root (done ++ [o]) s' := by
  have hpop : s.pending.pop = .ok (o, ⟨rest⟩) := (Queue.pop_eq_ok_iff _ _ _).2 ho
  refine ⟨visit h { s with pending := ⟨rest⟩ } o, by rw [round?, hpop], ?_⟩
  rcases enqueue_all (h.contribution o).reached
    { s with
      pending := ⟨rest⟩
      elements := s.elements.insertAll (h.contribution o).elements
      log := s.log ++ (h.contribution o).log } with ⟨he, new, hv, hp⟩
  -- The state after the round, part by part.
  have hvisited : (visit h { s with pending := ⟨rest⟩ } o).visited.toList
      = s.visited.toList ++ new := hv
  have hpending : (visit h { s with pending := ⟨rest⟩ } o).pending.items = rest ++ new := hp
  have helements : (visit h { s with pending := ⟨rest⟩ } o).elements
      = s.elements.insertAll (h.contribution o).elements := he
  have hmem : ∀ p, p ∈ (visit h { s with pending := ⟨rest⟩ } o).visited ↔
      p ∈ s.visited ∨ p ∈ (h.contribution o).reached :=
    fun p => mem_visited_enqueue_all _ _ p
  have howner : o ∈ s.visited := by
    rw [← DistinctList.mem_toList, hs.visited, ho]
    exact List.mem_append_right _ List.mem_cons_self
  refine ⟨?_, (hmem root).2 (Or.inl hs.rootMet), ?_, ?_, ?_⟩
  · rw [hvisited, hpending, hs.visited, ho]
    simp
  · intro p hp'
    rcases (hmem p).1 hp' with hold | hnew
    · exact hs.explored p hold
    · exact explored_of_reached h root o p (hs.explored o howner) hnew
  · intro owner hd p hp'
    rw [hmem p]
    rcases List.mem_append.1 hd with hold | hlast
    · exact Or.inl (hs.closed owner hold p hp')
    · rw [List.mem_singleton] at hlast
      rw [hlast] at hp'
      exact Or.inr hp'
  · intro e
    rw [helements, DistinctList.mem_insertAll, hs.elements e]
    simp only [List.mem_append, List.mem_singleton, or_and_right, exists_or, exists_eq_left]

/-- No more objects are looked at than there are candidates. -/
theorem Progress.length_le {h : Heap} {root : Instance} {done : List Instance} {s : Search}
    (hs : Progress h root done s) :
    (done ++ s.pending.items).length ≤ (h.candidates root).length := by
  rw [← hs.visited]
  exact s.visited.nodup.length_le_of_subset
    (fun o ho => explored_mem_candidates h root o (hs.explored o ho))

/-- The rounds end with an empty queue, if there may be more of them than there are candidates
    that have not been looked at. -/
theorem run_progress (h : Heap) (root : Instance) (fuel : Nat) (done : List Instance) (s : Search)
    (hs : Progress h root done s) (hfuel : (h.candidates root).length < done.length + fuel) :
    ∃ all, Progress h root all (run h fuel s) ∧ (run h fuel s).pending.items = [] := by
  induction fuel generalizing done s with
  | zero =>
      -- Every object looked at is another candidate, so the rounds cannot have been used up.
      have hle := hs.length_le
      rw [List.length_append] at hle
      omega
  | succ fuel ih =>
      cases hp : s.pending.items with
      | nil =>
          have hstop : round? h s = none := by
            have hpop : s.pending.pop = .error .empty := by rw [Queue.pop, hp]
            rw [round?, hpop]
          have hrun : run h (fuel + 1) s = s := by rw [run, hstop]
          rw [hrun]
          exact ⟨done, hs, hp⟩
      | cons o rest =>
          rcases round?_progress h root o done rest s hs hp with ⟨s', hround, hs'⟩
          have hrun : run h (fuel + 1) s = run h fuel s' := by rw [run, hround]
          rw [hrun]
          refine ih (done ++ [o]) s' hs' ?_
          rw [List.length_append, List.length_singleton]
          omega

/-- When nothing waits any more, the objects looked at are the explored ones. -/
theorem visited_iff_explored (h : Heap) (root : Instance) (done : List Instance) (s : Search)
    (hs : Progress h root done s) (hp : s.pending.items = []) (o : Instance) :
    o ∈ done ↔ h.Explored root o := by
  have hdone : s.visited.toList = done := by rw [hs.visited, hp, List.append_nil]
  have hmem : ∀ p, p ∈ s.visited ↔ p ∈ done := by
    intro p
    rw [← DistinctList.mem_toList, hdone]
  constructor
  · intro ho
    exact hs.explored o ((hmem o).2 ho)
  · intro ho
    refine mem_of_explored h root (· ∈ done) ((hmem root).1 hs.rootMet) ?_ o ho
    intro owner howner p hpr
    exact (hmem p).1 (hs.closed owner howner p hpr)

end Search

/-- The closure of an object is what the explored objects contribute. -/
theorem mem_closure_iff (h : Heap) (root : Instance) (e : Element) :
    e ∈ (h.closure root).value ↔
      ∃ o, h.Explored root o ∧ e ∈ (h.contribution o).elements := by
  rcases Search.run_progress h root ((h.candidates root).length + 1) [] (.start root)
    (Search.start_progress h root) (by simp) with ⟨done, hs, hp⟩
  have hvalue : (h.closure root).value
      = (Search.run h ((h.candidates root).length + 1) (.start root)).elements := rfl
  rw [hvalue, hs.elements e]
  simp only [Search.visited_iff_explored h root done _ hs hp]

/-- The closure of an object is exactly the set of elements that are tainted with it. -/
theorem mem_closure_iff_tainted (h : Heap) (root : Instance) (e : Element) :
    e ∈ (h.closure root).value ↔ h.Tainted root e := by
  rw [mem_closure_iff, tainted_iff]

end Heap

end TaintSeed
