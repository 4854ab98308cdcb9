import Mathlib.Data.List.Infix
import TaintSeed.Proofs.Heap.Unfolding

/-!
# Each Object Once

How the work list of a closure behaves from round to round. The search makes up
objects on its way, so what can get into the queue is not given beforehand, and
the heap may go around in circles. Still no object is queued a second time, and
the rounds come to an end.

`Loop` are the states in which a round can begin, together with the objects
taken from the queue so far. Each of them satisfies `Progress`: the visited
objects are those taken followed by those that wait, in a list without
repetitions. So an object that waits has not been taken and waits once. All of
them are candidates, so there cannot be more rounds than candidates.

The end is a state of this kind too, and since a round has only one outcome,
every other state lies on the way to it. Its taken objects are the explored
ones, which gives the number of rounds exactly.

## Main definitions

* `Heap.Search.Loop`: The states in which a round can begin.

## Theorems

* `Heap.Search.Loop.progress`: What is known of these states.
* `Heap.Search.Loop.run`: Further rounds lead to such states.
* `Heap.Search.Loop.run_eq`: The search passes through every such state.
* `Heap.Search.Loop.taken_prefix`: It takes the same objects in the same order.
* `Heap.exists_of_mem_closure_log`: Reports are about fields of explored objects.
* `Heap.search_visits_once`: Each object is taken once, and the rounds end with the explored ones.
-/

namespace TaintSeed

namespace Heap

namespace Search

/-- The search from `root` can be in the state `s` when a round begins, and has taken the objects
    `taken` from the queue, in this order. -/
inductive Loop (h : Heap) (root : Instance) : List Instance → Search → Prop
  /-- Before the first round the root waits. -/
  | start : Loop h root [] (.start root)
  /-- A round takes the next object and looks at it. -/
  | round {taken : List Instance} {s s' : Search} {o : Instance} {rest : Queue Instance}
      (loop : Loop h root taken s) (pop : s.pending.pop = .ok (o, rest))
      (step : round? h s = some s') : Loop h root (taken ++ [o]) s'

namespace Loop

variable {h : Heap} {root : Instance} {taken : List Instance} {s : Search}

theorem progress (hs : Loop h root taken s) : Progress h root taken s := by
  induction hs with
  | start => exact start_progress h root
  | @round taken s s' o rest _ hpop hstep ih =>
      have hitems := (Queue.pop_eq_ok_iff _ _ _).1 hpop
      rcases round?_progress h root o taken rest.items s ih hitems with ⟨t, hround, ht⟩
      rw [hstep] at hround
      cases hround
      exact ht

-- While an object waits there is a round, and it takes the first one.
theorem next (hs : Loop h root taken s) {o : Instance} {rest : List Instance}
    (hitems : s.pending.items = o :: rest) :
    ∃ s', round? h s = some s' ∧ Loop h root (taken ++ [o]) s' := by
  rcases round?_progress h root o taken rest s hs.progress hitems with ⟨s', hround, _⟩
  have hpop : s.pending.pop = .ok (o, ⟨rest⟩) := (Queue.pop_eq_ok_iff _ _ _).2 hitems
  exact ⟨s', hround, .round hs hpop hround⟩

theorem run (hs : Loop h root taken s) (fuel : Nat) :
    ∃ all, Loop h root all (Search.run h fuel s) ∧ taken <+: all := by
  induction fuel generalizing taken s with
  | zero => exact ⟨taken, hs, List.prefix_rfl⟩
  | succ fuel ih =>
      cases hitems : s.pending.items with
      | nil =>
          have hstop : round? h s = none := by rw [round?, Queue.pop, hitems]
          have hrun : Search.run h (fuel + 1) s = s := by rw [Search.run, hstop]
          rw [hrun]
          exact ⟨taken, hs, List.prefix_rfl⟩
      | cons o rest =>
          rcases hs.next hitems with ⟨s', hround, hs'⟩
          have hrun : Search.run h (fuel + 1) s = Search.run h fuel s' := by
            rw [Search.run, hround]
          rcases ih hs' with ⟨all, hall, hprefix⟩
          rw [hrun]
          exact ⟨all, hall, (List.prefix_append taken [o]).trans hprefix⟩

/-- The search passes through every state in which a round can begin. -/
theorem run_eq (hs : Loop h root taken s) (fuel : Nat) :
    Search.run h (taken.length + fuel) (.start root) = Search.run h fuel s := by
  induction hs generalizing fuel with
  | start => rw [List.length_nil, Nat.zero_add]
  | @round taken s s' o rest _ _ hstep ih =>
      have hcount : (taken ++ [o]).length + fuel = taken.length + (fuel + 1) := by
        rw [List.length_append, List.length_singleton]
        omega
      rw [hcount, ih, Search.run, hstep]

theorem length_taken_le (hs : Loop h root taken s) :
    taken.length ≤ (h.candidates root).length := by
  have hle := hs.progress.length_le
  rw [List.length_append] at hle
  omega

-- When nothing waits, what has been visited has been taken.
theorem taken_eq (hs : Loop h root taken s) (hitems : s.pending.items = []) :
    taken = s.visited.toList := by
  rw [hs.progress.visited, hitems, List.append_nil]

/-- What has been taken when a round begins is the beginning of what the whole search takes. -/
theorem taken_prefix (hs : Loop h root taken s) {all : List Instance}
    (hall : Loop h root all (Search.run h ((h.candidates root).length + 1) (.start root)))
    (hitems : (Search.run h ((h.candidates root).length + 1) (.start root)).pending.items = []) :
    taken <+: all := by
  -- The rounds that are left after this state lead to the same end.
  have hle := hs.length_taken_le
  have hsame := hs.run_eq ((h.candidates root).length + 1 - taken.length)
  rw [Nat.add_sub_cancel' (by omega)] at hsame
  rcases hs.run ((h.candidates root).length + 1 - taken.length) with ⟨all', hall', hprefix⟩
  rw [← hsame] at hall'
  rw [hall.taken_eq hitems, ← hall'.taken_eq hitems]
  exact hprefix

-- The log holds what the objects taken have to report, one after the other.
theorem log_eq (hs : Loop h root taken s) :
    s.log = taken.flatMap (fun o => (h.contribution o).log) := by
  have hqueued : ∀ (os : List Instance) (s : Search), (os.foldl enqueue s).log = s.log := by
    intro os
    induction os with
    | nil => exact fun _ => rfl
    | cons o os ih =>
        intro s
        rw [List.foldl_cons, ih, enqueue]
        split <;> rfl
  induction hs with
  | start => rfl
  | @round taken s s' o rest _ hpop hstep ih =>
      have hvisit : s' = visit h { s with pending := rest } o := by
        rw [round?, hpop] at hstep
        exact (Option.some.inj hstep).symm
      rw [hvisit, visit, hqueued, List.flatMap_append, List.flatMap_singleton, ← ih]

end Loop

end Search

theorem concat_log (cs : List Contribution) :
    (Contribution.concat cs).log = cs.flatMap Contribution.log := by
  induction cs with
  | nil => rfl
  | cons c cs ih => exact congrArg (fun log => c.log ++ log) ih

/-- What is reported about a closure is reported about fields of explored objects. -/
theorem exists_of_mem_closure_log (h : Heap) (root : Instance) {entry : Log.Entry}
    (hentry : entry ∈ (h.closure root).log) :
    ∃ owner, h.Explored root owner ∧ ∃ field ∈ h.hierarchy.instanceFields owner.type,
      entry ∈ (h.ofField owner field).log := by
  rcases Search.Loop.start.run ((h.candidates root).length + 1) with ⟨all, hall, _⟩
  have hlog : (h.closure root).log = _ := hall.log_eq
  rw [hlog, List.mem_flatMap] at hentry
  rcases hentry with ⟨owner, howner, hentry⟩
  have hvisited : owner ∈ (Search.run h ((h.candidates root).length + 1) (.start root)).visited := by
    rw [← DistinctList.mem_toList, hall.progress.visited]
    exact List.mem_append_left _ howner
  refine ⟨owner, hall.progress.explored owner hvisited, ?_⟩
  have hcontribution : (h.contribution owner).log = (if owner.type.isArray then
      Contribution.concat []
      else .concat ((h.hierarchy.instanceFields owner.type).map (h.ofField owner))).log := rfl
  rw [hcontribution] at hentry
  by_cases ha : owner.type.isArray = true
  · rw [if_pos ha] at hentry
    exact absurd hentry List.not_mem_nil
  · rw [if_neg ha, concat_log, List.mem_flatMap] at hentry
    rcases hentry with ⟨c, hc, hentry⟩
    rcases List.mem_map.1 hc with ⟨field, hfield, rfl⟩
    exact ⟨field, hfield, hentry⟩

/-- In the search for a closure no object waits twice, those that wait have been met, and none
    that has been taken from the queue is ever queued again. Nothing but candidates is met: the
    root, recorded objects, and the keys of the types of declared fields. The rounds end with an
    empty queue when each explored object has been taken once, and every round leads there. -/
theorem search_visits_once (h : Heap) (root : Instance) :
    (∀ taken s, Search.Loop h root taken s →
      s.pending.items.Nodup ∧ (∀ o ∈ s.pending.items, o ∈ s.visited) ∧
      (∀ o ∈ taken, o ∉ s.pending.items) ∧ ∀ o ∈ taken ++ s.pending.items, o ∈ h.candidates root) ∧
    ∃ all s, Search.Loop h root all s ∧ s.pending.isEmpty = true ∧
      h.closure root = ⟨s.elements, s.log⟩ ∧
      all.Nodup ∧ (∀ o, o ∈ all ↔ h.Explored root o) ∧
      ∀ taken s', Search.Loop h root taken s' → taken <+: all := by
  constructor
  · intro taken s hs
    have hp := hs.progress
    have hnodup : (taken ++ s.pending.items).Nodup := by
      rw [← hp.visited]
      exact s.visited.nodup
    have hmem : ∀ o ∈ taken ++ s.pending.items, o ∈ s.visited := by
      intro o ho
      rw [← DistinctList.mem_toList, hp.visited]
      exact ho
    rcases List.nodup_append.1 hnodup with ⟨_, hwaiting, hapart⟩
    refine ⟨hwaiting, fun o ho => hmem o (List.mem_append_right _ ho), ?_, ?_⟩
    · exact fun o ho hc => hapart o ho o hc rfl
    · exact fun o ho => explored_mem_candidates h root o (hp.explored o (hmem o ho))
  · rcases Search.run_progress h root ((h.candidates root).length + 1) [] (.start root)
      (Search.start_progress h root) (by simp) with ⟨_, _, hitems⟩
    rcases Search.Loop.start.run ((h.candidates root).length + 1) with ⟨all, hall, _⟩
    refine ⟨all, _, hall, by rw [Queue.isEmpty, hitems]; rfl, rfl, ?_, ?_, ?_⟩
    · rw [hall.taken_eq hitems]
      exact DistinctList.nodup _
    · exact Search.visited_iff_explored h root all _ hall.progress hitems
    · exact fun taken s' hs => hs.taken_prefix hall hitems

/-- Two cells that are linked in a circle: when the first has been looked at, it does not wait
    again, although the second leads back to it, and both are taken once. -/
theorem search_visits_once_ring :
    (∃ s, Search.Loop ring (cell "s1") [cell "s1"] s ∧ cell "s1" ∉ s.pending.items) ∧
    ∃ all s, Search.Loop ring (cell "s1") all s ∧ s.pending.isEmpty = true ∧ all.Nodup ∧
      cell "s1" ∈ all ∧ cell "s2" ∈ all := by
  rcases search_visits_once ring (cell "s1") with
    ⟨hrounds, all, last, hloop, hempty, _, hnodup, hmem, _⟩
  have hnext : nextField ∈ ring.hierarchy.instanceFields (cell "s1").type := List.mem_cons_self
  have hlinked : ring.Explored (cell "s1") (cell "s2") :=
    .pointed .root TypeKind.noConfusion hnext rfl (List.mem_mergeSort.2 List.mem_cons_self)
  refine ⟨?_, all, last, hloop, hempty, hnodup, (hmem _).2 .root, (hmem _).2 hlinked⟩
  have hfirst : (Search.start (cell "s1")).pending.items = [cell "s1"] := rfl
  rcases (Search.Loop.start (h := ring)).next hfirst with ⟨s, _, hs⟩
  exact ⟨s, hs, (hrounds [cell "s1"] s hs).2.2.1 _ List.mem_cons_self⟩

end Heap

end TaintSeed
