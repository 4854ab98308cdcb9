import Mathlib.Data.List.Chain
import Mathlib.Order.Basic
import TaintSeed.Proofs.View.WellFormed

/-!
# Routes Back to the Start

The search for cycles that does not block anything but the walked path: from
the last number of the path it tries every successor that is not on the path
and notes the path whenever a successor is the start. This is the measure for
the search that the library uses, which must find the same and may only be
faster.

`routes` is that search. It finds exactly the `IsRoute`s, the ways home without
repetition that do not touch the path, as long as its depth allows. It also
finds them in order: two routes part at some number, behind which one goes on
with a smaller successor than the other.

## Main definitions

* `View.onward`: What one successor of the end of a path leads to.
* `View.routes`: The ways home from the end of a path.
* `View.IsRoute`: Some numbers lead from the end of a path home to the start.

## Theorems

* `View.mem_routes_iff`: The routes that are found.
* `View.routes_pairwise`: They are found in lexicographic order.
-/

namespace TaintSeed

namespace View

/-- What the successor `y` of the end of `path` leads to, given the ways home from `y`. The path
    has its last number first. -/
def onward (start : NodeId) (path : List NodeId) (home : NodeId → List (List NodeId))
    (y : NodeId) : List (List NodeId) :=
  if y = start then [path.reverse ++ [y]]
  else if y ∈ path then []
  else home y

/-- The ways that go along `path`, on to `x` and home to `start`, at most `fuel` numbers deep. -/
def routes (v : View) (start : NodeId) : Nat → List NodeId → NodeId → List (List NodeId)
  | 0, _, _ => []
  | fuel + 1, path, x =>
    (v.succs x).flatMap (onward start (x :: path) (routes v start fuel (x :: path)))

/-- The numbers `q` lead from `x` home to `start`, none of them twice, and touch neither the start
    nor the path to `x`. -/
structure IsRoute (v : View) (start : NodeId) (path : List NodeId) (x : NodeId)
    (q : List NodeId) : Prop where
  /-- Each number has an edge to the next. -/
  chain : (x :: (q ++ [start])).IsChain (fun a b => v.hasEdge a b = true)
  /-- No number is repeated. -/
  nodup : q.Nodup
  /-- No number is the start. -/
  home : start ∉ q
  /-- No number is on the path. -/
  path : ∀ z ∈ q, z ∉ x :: path

variable (v : View) (start : NodeId)

theorem isRoute_nil (path : List NodeId) (x : NodeId) :
    v.IsRoute start path x [] ↔ v.hasEdge x start = true := by
  constructor
  · intro h
    exact (List.isChain_cons_cons.1 h.chain).1
  · intro h
    exact ⟨List.isChain_cons_cons.2 ⟨h, List.isChain_singleton start⟩, List.nodup_nil,
      List.not_mem_nil, fun z hz => absurd hz List.not_mem_nil⟩

/-- The first step of a route, and the route from there. -/
theorem isRoute_cons (path : List NodeId) (x y : NodeId) (q : List NodeId) :
    v.IsRoute start path x (y :: q) ↔
      v.hasEdge x y = true ∧ y ≠ start ∧ y ∉ x :: path ∧ v.IsRoute start (x :: path) y q := by
  constructor
  · rintro ⟨hchain, hnodup, hhome, hpath⟩
    rw [List.cons_append, List.isChain_cons_cons] at hchain
    rw [List.nodup_cons] at hnodup
    rw [List.mem_cons, not_or] at hhome
    refine ⟨hchain.1, Ne.symm hhome.1, hpath y List.mem_cons_self,
      hchain.2, hnodup.2, hhome.2, fun z hz hc => ?_⟩
    rcases List.mem_cons.1 hc with rfl | hc
    · exact hnodup.1 hz
    · exact hpath z (List.mem_cons_of_mem y hz) hc
  · rintro ⟨hedge, hstart, hy, hchain, hnodup, hhome, hpath⟩
    refine ⟨List.isChain_cons_cons.2 ⟨hedge, hchain⟩, List.nodup_cons.2 ⟨fun hc => ?_, hnodup⟩,
      fun hc => ?_, fun z hz => ?_⟩
    · exact hpath y hc List.mem_cons_self
    · rcases List.mem_cons.1 hc with hc | hc
      · exact hstart hc.symm
      · exact hhome hc
    · rcases List.mem_cons.1 hz with rfl | hz
      · exact hy
      · exact fun hc => hpath z hz (List.mem_cons_of_mem y hc)

/-- What is found are the routes, each behind the path, as far as the depth allows. -/
theorem mem_routes_iff (fuel : Nat) (path : List NodeId) (x : NodeId) (c : List NodeId) :
    c ∈ v.routes start fuel path x ↔
      ∃ q, v.IsRoute start path x q ∧ q.length < fuel ∧
        c = path.reverse ++ x :: (q ++ [start]) := by
  induction fuel generalizing path x with
  | zero =>
      refine ⟨fun hc => absurd hc List.not_mem_nil, ?_⟩
      rintro ⟨q, _, hlen, _⟩
      exact absurd hlen (Nat.not_lt_zero _)
  | succ fuel ih =>
      rw [routes, List.mem_flatMap]
      constructor
      · -- Each successor gives the routes that begin with it.
        rintro ⟨y, hy, hc⟩
        have hedge : v.hasEdge x y = true := (mem_succs_iff v x y).1 hy
        unfold onward at hc
        split at hc
        · rename_i hstart
          subst hstart
          refine ⟨[], (isRoute_nil v y path x).2 hedge, Nat.succ_pos fuel, ?_⟩
          rw [List.mem_singleton.1 hc, List.reverse_cons, List.append_assoc]
          rfl
        · rename_i hstart
          split at hc
          · exact absurd hc List.not_mem_nil
          · rename_i hnew
            rcases (ih (x :: path) y).1 hc with ⟨q, hq, hlen, rfl⟩
            refine ⟨y :: q, (isRoute_cons v start path x y q).2 ⟨hedge, hstart, hnew, hq⟩,
              Nat.succ_lt_succ hlen, ?_⟩
            rw [List.reverse_cons, List.append_assoc]
            rfl
      · -- A route comes home at once or has a first number, which is a successor off the path.
        rintro ⟨q, hq, hlen, rfl⟩
        cases q with
        | nil =>
            refine ⟨start, (mem_succs_iff v x start).2 ((isRoute_nil v start path x).1 hq), ?_⟩
            rw [onward, if_pos rfl, List.mem_singleton, List.reverse_cons, List.append_assoc]
            rfl
        | cons y q =>
            rcases (isRoute_cons v start path x y q).1 hq with ⟨hedge, hstart, hnew, hrest⟩
            refine ⟨y, (mem_succs_iff v x y).2 hedge, ?_⟩
            rw [onward, if_neg hstart, if_neg hnew]
            refine (ih (x :: path) y).2 ⟨q, hrest, Nat.lt_of_succ_lt_succ hlen, ?_⟩
            rw [List.reverse_cons, List.append_assoc]
            rfl

/-! ## The order of the routes -/

-- What a successor leads to begins with the path and that successor.
theorem prefixed_of_mem_onward (fuel : Nat) (path : List NodeId) (y : NodeId) (c : List NodeId)
    (hc : c ∈ onward start path (v.routes start fuel path) y) :
    ∃ t, c = path.reverse ++ y :: t := by
  unfold onward at hc
  split at hc
  · exact ⟨[], List.mem_singleton.1 hc⟩
  · split at hc
    · exact absurd hc List.not_mem_nil
    · rcases (mem_routes_iff v start fuel path y c).1 hc with ⟨q, _, _, rfl⟩
      exact ⟨q ++ [start], rfl⟩

/-- The routes are found in lexicographic order. -/
theorem routes_pairwise (fuel : Nat) (path : List NodeId) (x : NodeId) :
    (v.routes start fuel path x).Pairwise (· < ·) := by
  induction fuel generalizing path x with
  | zero => exact List.Pairwise.nil
  | succ fuel ih =>
      rw [routes, List.pairwise_flatMap]
      constructor
      · intro y _
        unfold onward
        split
        · exact List.pairwise_singleton _ _
        · split
          · exact List.Pairwise.nil
          · exact ih (x :: path) y
      · -- Routes by different successors part right behind the path.
        refine (succs_pairwise v x).imp ?_
        intro y z hyz c hc d hd
        rcases prefixed_of_mem_onward v start fuel _ y c hc with ⟨t, rfl⟩
        rcases prefixed_of_mem_onward v start fuel _ z d hd with ⟨u, rfl⟩
        exact List.append_left_lt (List.cons_lt_cons_iff.2 (Or.inl hyz))

end View

end TaintSeed
