import TaintSeed.Proofs.View.Agreement
import TaintSeed.Proofs.View.Algorithms
import TaintSeed.View.Stats

/-!
# Reachability in a View

What correct algorithms find in a view, in terms of its edges.

An algorithm that works on the numbers below the order sees numbers that the
view does not have. From these it visits nothing, and no other number leads to
them, so each of them is a component of its own and the components of the
others are classes of numbers of the view. An algorithm that works on lists of
nodes sees the numbers of the view only. In both cases a component is the class
of each of its members, and this is all that the rest of the library uses.

Algorithms can be expected to work because views are proper graphs: all numbers
lie below the order, successors are numbers of the view, and no list repeats a
number.

## Main definitions

* `View.Reaches`: There is a way of at least one edge.
* `View.Connected`: Two numbers are the same or reach each other.
* `View.InRange`: All numbers of the view lie below the order.

## Theorems

* `View.iterator_isProper`, `View.directed_isProper`: A view is a proper graph for an algorithm.
* `View.InRange.mem_component_iff`: A component is the class of each of its members.
* `View.WellFormed.mem_group_iff`: The same for an algorithm that sees lists of nodes.
* `View.exists_group_iff`: Which numbers lie in a component with two members.
-/

namespace TaintSeed

namespace View

/-- There is a way from `x` to `y` along at least one edge. -/
def Reaches (v : View) : NodeId → NodeId → Prop :=
  Relation.TransGen (fun x y => v.hasEdge x y = true)

/-- The numbers are the same, or each can be reached from the other. -/
def Connected (v : View) (x y : NodeId) : Prop := x = y ∨ v.Reaches x y ∧ v.Reaches y x

theorem Reaches.mem_keys {v : View} (hv : v.WellFormed) {x y : NodeId} (h : v.Reaches x y) :
    x ∈ v.keys ∧ y ∈ v.keys := by
  induction h with
  | single hedge => exact ⟨hv.starts _ _ hedge, hv.ends _ _ hedge⟩
  | tail _ hedge ih => exact ⟨ih.1, hv.ends _ _ hedge⟩

theorem Connected.symm {v : View} {x y : NodeId} (h : v.Connected x y) : v.Connected y x := by
  rcases h with rfl | ⟨hxy, hyx⟩
  · exact Or.inl rfl
  · exact Or.inr ⟨hyx, hxy⟩

theorem Connected.trans {v : View} {x y z : NodeId} (hxy : v.Connected x y)
    (hyz : v.Connected y z) : v.Connected x z := by
  rcases hxy with rfl | ⟨hxy, hyx⟩
  · exact hyz
  · rcases hyz with rfl | ⟨hyz, hzy⟩
    · exact Or.inr ⟨hxy, hyx⟩
    · exact Or.inr ⟨hxy.trans hyz, hzy.trans hyx⟩

/-- Being connected is to lead to each other, by ways that may be empty. -/
theorem connected_iff (v : View) (x y : NodeId) :
    v.Connected x y ↔ Relation.ReflTransGen (fun x y => v.hasEdge x y = true) x y ∧
      Relation.ReflTransGen (fun x y => v.hasEdge x y = true) y x := by
  rw [Relation.reflTransGen_iff_eq_or_transGen, Relation.reflTransGen_iff_eq_or_transGen]
  constructor
  · rintro (rfl | ⟨hxy, hyx⟩)
    · exact ⟨Or.inl rfl, Or.inl rfl⟩
    · exact ⟨Or.inr hxy, Or.inr hyx⟩
  · rintro ⟨hxy, hyx⟩
    rcases hxy with rfl | hxy
    · exact Or.inl rfl
    · rcases hyx with rfl | hyx
      · exact Or.inl rfl
      · exact Or.inr ⟨hxy, hyx⟩

/-! ## Views as algorithms see them -/

/-- All numbers of the view are at least zero and below the order. -/
def InRange (v : View) : Prop := ∀ x ∈ v.keys, v.isInRange x = true

theorem isInRange_iff (v : View) (x : NodeId) : v.isInRange x = true ↔ v.iterator.Has x := by
  rw [isInRange, Bool.and_eq_true, decide_eq_true_iff, decide_eq_true_iff]
  rfl

theorem DerivedFrom.inRange {g : Graph} {v : View} (hv : v.DerivedFrom g) : v.InRange :=
  fun x hx => (isInRange_iff v x).2 (hv.key_range x hx)

theorem InRange.restrict {v : View} (hv : v.WellFormed) (hr : v.InRange) (ids : List NodeId) :
    (v.restrict ids).InRange :=
  fun x hx => hr x ((mem_keys_restrict ids hv x).1 hx).2

theorem mem_visit_iterator {v : View} (hv : v.WellFormed) (x y : NodeId) :
    y ∈ v.iterator.visit x ↔ v.hasEdge x y = true := by
  change y ∈ v.visited x ↔ _
  rw [visited_eq v hv, mem_succs_iff]

theorem iterator_isProper {v : View} (hv : v.WellFormed) (hr : v.InRange) :
    v.iterator.IsProper := by
  constructor
  · intro x _ y hy
    exact (isInRange_iff v y).1 (hr y (hv.ends x y ((mem_visit_iterator hv x y).1 hy)))
  · intro x _
    change (v.visited x).Nodup
    rw [visited_eq v hv]
    exact (succs_pairwise v x).imp (fun hlt => ne_of_lt hlt)

theorem nodes_directed (v : View) : v.directed.nodes = v.keys := Cursor.listed_start v.keys

theorem succs_directed (v : View) (x : NodeId) : v.directed.succs x = v.succs x :=
  Cursor.listed_start (v.succs x)

theorem directed_eq (v : View) : v.directed = ⟨v.keys, v.succs⟩ := by
  rw [directed, Cursor.listed_start]
  simp only [Cursor.listed_start]

theorem directed_isProper {v : View} (hv : v.WellFormed) : v.directed.IsProper := by
  constructor
  · rw [nodes_directed]
    exact hv.nodup
  · intro x _ y hy
    rw [succs_directed, mem_succs_iff] at hy
    rw [nodes_directed]
    exact hv.ends x y hy

/-! ## What correct algorithms find -/

section Components

variable {find : Iterator → List (List NodeId)} (hfind : FindsComponents find) {v : View}
  (hv : v.WellFormed) (hr : v.InRange)
include hfind hv hr

theorem InRange.areComponents :
    AreComponents v.iterator.Has (fun x y => v.hasEdge x y = true) (find v.iterator) := by
  have hedges : (fun x y => y ∈ v.iterator.visit x) = fun x y => v.hasEdge x y = true := by
    funext x y
    exact propext (mem_visit_iterator hv x y)
  rw [← hedges]
  exact hfind v.iterator (iterator_isProper hv hr)

/-- The members of a component are the numbers that are connected with one of them. -/
theorem InRange.mem_component_iff {c : List NodeId} (hc : c ∈ find v.iterator) {x : NodeId}
    (hx : x ∈ c) (y : NodeId) : y ∈ c ↔ v.Connected x y := by
  rw [connected_iff]
  exact (hr.areComponents hfind hv).classes c hc x hx y

/-- Every number of the view is in a component. -/
theorem InRange.exists_component {x : NodeId} (hx : x ∈ v.keys) :
    ∃ c ∈ find v.iterator, x ∈ c :=
  ((hr.areComponents hfind hv).nodes x).2 ((isInRange_iff v x).1 (hr x hx))

end Components

section Groups

variable {find : Directed → List (List NodeId)} (hfind : FindsGroups find) {v : View}
  (hv : v.WellFormed)
include hfind hv

theorem WellFormed.areGroups :
    AreComponents (· ∈ v.keys) (fun x y => v.hasEdge x y = true) (find v.directed) := by
  have hfound := hfind v.directed (directed_isProper hv)
  simp only [succs_directed, mem_succs_iff, nodes_directed] at hfound
  exact hfound

theorem WellFormed.mem_group_iff {c : List NodeId} (hc : c ∈ find v.directed) {x : NodeId}
    (hx : x ∈ c) (y : NodeId) : y ∈ c ↔ v.Connected x y := by
  rw [connected_iff]
  exact (hv.areGroups hfind).classes c hc x hx y

/-- Two numbers that are connected lie in one component, which has two members. -/
theorem exists_group {x y : NodeId} (hne : x ≠ y) (h : v.Connected x y) :
    ∃ c ∈ find v.directed, 1 < c.length ∧ x ∈ c ∧ y ∈ c := by
  have hkey : x ∈ v.keys := by
    rcases h with rfl | ⟨hxy, _⟩
    · exact absurd rfl hne
    · exact (hxy.mem_keys hv).1
  rcases ((hv.areGroups hfind).nodes x).2 hkey with ⟨c, hc, hx⟩
  have hy : y ∈ c := (hv.mem_group_iff hfind hc hx y).2 h
  refine ⟨c, hc, ?_, hx, hy⟩
  have hsub : [x, y] ⊆ c := by simp [hx, hy]
  exact List.Nodup.length_le_of_subset (by simp [hne]) hsub

/-- A component with two members has another one beside each of them. -/
theorem exists_ne_of_mem_group {c : List NodeId} (hc : c ∈ find v.directed) (hlen : 1 < c.length)
    (x : NodeId) : ∃ y ∈ c, y ≠ x := by
  by_contra hall
  -- Otherwise the component would be no longer than the list of `x` alone.
  have hsub : c ⊆ [x] := by
    intro y hy
    by_contra hne
    exact hall ⟨y, hy, fun heq => hne (List.mem_singleton.2 heq)⟩
  have hnodup := (List.nodup_flatten.1 (hv.areGroups hfind).nodup).1 c hc
  have hle := List.Nodup.length_le_of_subset hnodup hsub
  rw [List.length_singleton] at hle
  omega

/-- A number lies in a component with two members when it is connected with another number. -/
theorem exists_group_iff (x : NodeId) :
    (∃ c ∈ find v.directed, 1 < c.length ∧ x ∈ c) ↔ ∃ y, y ≠ x ∧ v.Connected x y := by
  constructor
  · rintro ⟨c, hc, hlen, hx⟩
    rcases exists_ne_of_mem_group hfind hv hc hlen x with ⟨y, hy, hne⟩
    exact ⟨y, hne, (hv.mem_group_iff hfind hc hx y).1 hy⟩
  · rintro ⟨y, hne, h⟩
    rcases exists_group hfind hv (Ne.symm hne) h with ⟨c, hc, hlen, hx, _⟩
    exact ⟨c, hc, hlen, hx⟩

end Groups

end View

end TaintSeed
