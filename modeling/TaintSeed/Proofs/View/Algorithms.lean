import Mathlib.Algebra.GroupWithZero.Nat
import Mathlib.Data.List.MinMax
import Mathlib.Logic.Relation
import Mathlib.Order.Basic
import TaintSeed.Proofs.Collection.Table
import TaintSeed.View.Algorithms

/-!
# What Is Asked of Algorithms on Graphs

What is proved about the figures and the cycles of a view holds whatever
algorithms are used, as long as they do what their names say. This module says
what that is, without a word about views: components are the classes of nodes
that reach each other, each listed once, and counting is counting.

It is asked for graphs only that an algorithm can be expected to work on. A
graph on the numbers below an order has to stay below it, and must not visit
a number twice from the same one; a graph on listed numbers has to list each
once and to lead to listed numbers.

The algorithms that the library comes with satisfy this. For the components it
has to be seen that the spreading finds everything before it runs out of steps.
Every step takes one pending number, and only a number that is seen for the
first time adds its successors, so the pending numbers together with the edges
that leave unseen numbers become fewer with each step. `unseenEdges` is that
second quantity.

## Main definitions

* `View.AreComponents`: The lists are the strongly connected components of a graph.
* `View.FindsComponents`, `View.FindsGroups`: The algorithm finds the components.
* `View.CountsNumbers`: The algorithm counts.
* `View.Directed.Covers`: What the spreading keeps true.

## Theorems

* `View.Directed.mem_reaches_iff`: What is reached is what there is a way to.
* `View.Directed.components_areComponents`: The components that are found.
* `View.findsComponents`, `View.findsGroups`, `View.countsNumbers`: The algorithms are correct.
-/

namespace TaintSeed

namespace View

/-! ## Correct algorithms -/

/-- The lists are the strongly connected components of the graph with the given nodes and edges:
    the classes of nodes that reach each other. -/
structure AreComponents (node : NodeId → Prop) (edge : NodeId → NodeId → Prop)
    (components : List (List NodeId)) : Prop where
  /-- No component is empty. -/
  nonempty : ∀ c ∈ components, c ≠ []
  /-- No node is listed twice. -/
  nodup : components.flatten.Nodup
  /-- The nodes are listed and nothing else. -/
  nodes : ∀ x, (∃ c ∈ components, x ∈ c) ↔ node x
  /-- With a node those are listed that it reaches and is reached from. -/
  classes : ∀ c ∈ components, ∀ x ∈ c, ∀ y, y ∈ c ↔
    Relation.ReflTransGen edge x y ∧ Relation.ReflTransGen edge y x

/-- The number is in the graph. -/
def Iterator.Has (g : Iterator) (x : NodeId) : Prop := 0 ≤ x ∧ x < g.order

/-- From the numbers of the graph other numbers of it are visited, none of them twice. -/
structure Iterator.IsProper (g : Iterator) : Prop where
  /-- The visits stay in the graph. -/
  ends : ∀ x, g.Has x → ∀ y ∈ g.visit x, g.Has y
  /-- No number is visited twice. -/
  nodup : ∀ x, g.Has x → (g.visit x).Nodup

/-- The nodes are listed once each, and their successors are nodes. -/
structure Directed.IsProper (g : Directed) : Prop where
  /-- No node is listed twice. -/
  nodup : g.nodes.Nodup
  /-- Successors are nodes. -/
  ends : ∀ x ∈ g.nodes, ∀ y ∈ g.succs x, y ∈ g.nodes

/-- The algorithm finds the strongly connected components of the numbers below the order. -/
def FindsComponents (find : Iterator → List (List NodeId)) : Prop :=
  ∀ g : Iterator, g.IsProper → AreComponents g.Has (fun x y => y ∈ g.visit x) (find g)

/-- The algorithm finds the strongly connected components of the listed nodes. -/
def FindsGroups (find : Directed → List (List NodeId)) : Prop :=
  ∀ g : Directed, g.IsProper → AreComponents (· ∈ g.nodes) (fun x y => y ∈ g.succs x) (find g)

/-- The algorithm counts, among the numbers below the order, those that are visited from
    themselves and those from which none is visited. -/
def CountsNumbers (check : Iterator → Iterator.Check) : Prop :=
  ∀ g : Iterator, g.IsProper → HasSize {x | g.Has x ∧ x ∈ g.visit x} (check g).loops ∧
    HasSize {x | g.Has x ∧ g.visit x = []} (check g).isolated

/-! ## Spreading -/

namespace Directed

/-- There is a way from `x` to `y` along at least one edge. -/
def Reaches (g : Directed) : NodeId → NodeId → Prop :=
  Relation.TransGen (fun x y => y ∈ g.succs x)

/-- What has been seen was seen before or can be reached from a pending number. -/
theorem reaches_of_mem_spread (g : Directed) (fuel : Nat) (pending : List NodeId)
    (seen : DistinctList NodeId) (y : NodeId) (hy : y ∈ g.spread fuel pending seen) :
    y ∈ seen ∨ ∃ p ∈ pending, p = y ∨ g.Reaches p y := by
  induction fuel generalizing pending seen with
  | zero => exact Or.inl hy
  | succ fuel ih =>
      cases pending with
      | nil => exact Or.inl hy
      | cons x xs =>
          rw [spread] at hy
          split at hy
          · rcases ih xs seen hy with hs | ⟨p, hp, hpy⟩
            · exact Or.inl hs
            · exact Or.inr ⟨p, List.mem_cons_of_mem x hp, hpy⟩
          · rcases ih _ _ hy with hs | ⟨p, hp, hpy⟩
            · rcases DistinctList.mem_insert.1 hs with hs | rfl
              · exact Or.inl hs
              · exact Or.inr ⟨y, List.mem_cons_self, Or.inl rfl⟩
            · rcases List.mem_append.1 hp with hsucc | hrest
              · -- A successor of the number that was taken: one more edge in front.
                refine Or.inr ⟨x, List.mem_cons_self, Or.inr ?_⟩
                rcases hpy with rfl | hpy
                · exact .single hsucc
                · exact .head hsucc hpy
              · exact Or.inr ⟨p, List.mem_cons_of_mem x hrest, hpy⟩

/-- The number of edges that leave the nodes that are not in `seen`. -/
def unseenEdges (g : Directed) (seen : DistinctList NodeId) : Nat :=
  ((g.nodes.filter (fun x => !seen.contains x)).map (fun x => (g.succs x).length)).sum

theorem unseenEdges_empty (g : Directed) : g.unseenEdges ∅ = g.size := by
  have hall : g.nodes.filter (fun x => !(∅ : DistinctList NodeId).contains x) = g.nodes := by
    refine List.filter_eq_self.2 (fun x _ => ?_)
    simp [DistinctList.contains]
  rw [unseenEdges, hall]
  rfl

-- Seeing another number takes its share off a sum over unseen numbers.
theorem sum_filter_insert (f : NodeId → Nat) (ks : List NodeId) (hn : ks.Nodup)
    (seen : DistinctList NodeId) (x : NodeId) (hx : x ∉ seen) (hk : x ∈ ks) :
    ((ks.filter (fun k => !(seen.insert x).contains k)).map f).sum + f x
      = ((ks.filter (fun k => !seen.contains k)).map f).sum := by
  rcases List.append_of_mem hk with ⟨before, behind, rfl⟩
  have hrest : ∀ k ∈ before ++ behind,
      (seen.insert x).contains k = seen.contains k := by
    intro k hkin
    have hne : k ≠ x := by
      rintro rfl
      rw [List.nodup_middle, List.nodup_cons] at hn
      exact hn.1 hkin
    simp [DistinctList.contains, hne]
  have hbefore := List.filter_congr (fun k hkin =>
    congrArg Bool.not (hrest k (List.mem_append_left behind hkin)))
  have hbehind := List.filter_congr (fun k hkin =>
    congrArg Bool.not (hrest k (List.mem_append_right before hkin)))
  have hin : (seen.insert x).contains x = true := by simp
  have hout : seen.contains x = false := by simpa [DistinctList.contains] using hx
  simp only [List.filter_append, List.filter_cons, hin, hout, Bool.not_true, Bool.not_false,
    Bool.false_eq_true, ↓reduceIte, hbefore, hbehind, List.map_append, List.sum_append,
    List.map_cons, List.sum_cons]
  omega

/-- Where an edge from a number that has been seen leads has been seen too, or is pending. -/
def Covers (g : Directed) (pending : List NodeId) (seen : DistinctList NodeId) : Prop :=
  ∀ x ∈ seen, ∀ y ∈ g.succs x, y ∈ seen ∨ y ∈ pending

theorem Covers.drop {g : Directed} {x : NodeId} {xs : List NodeId} {seen : DistinctList NodeId}
    (h : g.Covers (x :: xs) seen) (hx : x ∈ seen) : g.Covers xs seen := by
  intro z hz y hy
  rcases h z hz y hy with hs | hp
  · exact Or.inl hs
  · rcases List.mem_cons.1 hp with rfl | hp
    · exact Or.inl hx
    · exact Or.inr hp

theorem Covers.take {g : Directed} {x : NodeId} {xs : List NodeId} {seen : DistinctList NodeId}
    (h : g.Covers (x :: xs) seen) : g.Covers (g.succs x ++ xs) (seen.insert x) := by
  intro z hz y hy
  rcases DistinctList.mem_insert.1 hz with hz | rfl
  · rcases h z hz y hy with hs | hp
    · exact Or.inl (DistinctList.mem_insert.2 (Or.inl hs))
    · rcases List.mem_cons.1 hp with rfl | hp
      · exact Or.inl (DistinctList.mem_insert.2 (Or.inr rfl))
      · exact Or.inr (List.mem_append_right _ hp)
  · exact Or.inr (List.mem_append_left _ hy)

theorem spread_nil (g : Directed) (fuel : Nat) (seen : DistinctList NodeId) :
    g.spread fuel [] seen = seen := by
  cases fuel with
  | zero => rfl
  | succ fuel => rfl

section Proper

variable {g : Directed} (hg : g.IsProper)
include hg

theorem unseenEdges_insert (seen : DistinctList NodeId) (x : NodeId) (hx : x ∉ seen)
    (hnode : x ∈ g.nodes) :
    g.unseenEdges (seen.insert x) + (g.succs x).length = g.unseenEdges seen :=
  sum_filter_insert (fun x => (g.succs x).length) g.nodes hg.nodup seen x hx hnode

/-- With enough steps the search ends with a set that holds what was seen and what was pending
    and is closed under edges, if before only pending numbers were missing for that. -/
theorem spread_closed (fuel : Nat) (pending : List NodeId) (seen : DistinctList NodeId)
    (hnodes : ∀ x ∈ pending, x ∈ g.nodes) (hfuel : pending.length + g.unseenEdges seen ≤ fuel)
    (hcovers : g.Covers pending seen) :
    (∀ x ∈ seen, x ∈ g.spread fuel pending seen) ∧
      (∀ x ∈ pending, x ∈ g.spread fuel pending seen) ∧
      g.Covers [] (g.spread fuel pending seen) := by
  induction fuel generalizing pending seen with
  | zero =>
      have hnil : pending = [] := List.length_eq_zero_iff.1 (by omega)
      subst hnil
      rw [spread_nil]
      exact ⟨fun _ hx => hx, fun _ hx => absurd hx List.not_mem_nil, hcovers⟩
  | succ fuel ih =>
      cases pending with
      | nil =>
          rw [spread_nil]
          exact ⟨fun _ hx => hx, fun _ hx => absurd hx List.not_mem_nil, hcovers⟩
      | cons x xs =>
          rw [List.length_cons] at hfuel
          have hrest : ∀ z ∈ xs, z ∈ g.nodes := fun z hz => hnodes z (List.mem_cons_of_mem x hz)
          by_cases hx : x ∈ seen
          · rw [spread, if_pos (DistinctList.contains_iff.2 hx)]
            rcases ih xs seen hrest (by omega) (hcovers.drop hx) with ⟨hseen, hpending, hend⟩
            refine ⟨hseen, fun z hz => ?_, hend⟩
            rcases List.mem_cons.1 hz with rfl | hz
            · exact hseen z hx
            · exact hpending z hz
          · rw [spread, if_neg (fun hc => hx (DistinctList.contains_iff.1 hc))]
            have hnode := hnodes x List.mem_cons_self
            have hall : ∀ z ∈ g.succs x ++ xs, z ∈ g.nodes := by
              intro z hz
              rcases List.mem_append.1 hz with hz | hz
              · exact hg.ends x hnode z hz
              · exact hrest z hz
            -- The successors that become pending leave the edges of unseen numbers.
            have hless := unseenEdges_insert hg seen x hx hnode
            have henough : (g.succs x ++ xs).length + g.unseenEdges (seen.insert x) ≤ fuel := by
              rw [List.length_append]
              omega
            rcases ih _ _ hall henough hcovers.take with ⟨hseen, hpending, hend⟩
            refine ⟨fun z hz => hseen z (DistinctList.mem_insert.2 (Or.inl hz)), fun z hz => ?_, hend⟩
            rcases List.mem_cons.1 hz with rfl | hz
            · exact hseen z (DistinctList.mem_insert.2 (Or.inr rfl))
            · exact hpending z (List.mem_append_right _ hz)

theorem Reaches.mem_nodes {x y : NodeId} (h : g.Reaches x y) (hx : x ∈ g.nodes) : y ∈ g.nodes := by
  induction h with
  | single hedge => exact hg.ends x hx _ hedge
  | tail _ hedge ih => exact hg.ends _ ih _ hedge

/-- What is found from a node is what there is a way to. -/
theorem mem_spread_iff (x : NodeId) (hx : x ∈ g.nodes) (y : NodeId) :
    y ∈ g.spread ((g.succs x).length + g.size) (g.succs x) ∅ ↔ g.Reaches x y := by
  constructor
  · intro hy
    rcases reaches_of_mem_spread g _ _ _ y hy with hs | ⟨p, hp, hpy⟩
    · exact absurd hs (DistinctList.not_mem_empty y)
    · rcases hpy with rfl | hpy
      · exact .single hp
      · exact .head hp hpy
  · intro hxy
    rcases spread_closed hg ((g.succs x).length + g.size) (g.succs x) ∅ (hg.ends x hx)
      (by rw [unseenEdges_empty])
      (fun z hz => absurd hz (DistinctList.not_mem_empty z)) with ⟨_, hpending, hend⟩
    induction hxy with
    | single hedge => exact hpending _ hedge
    | tail _ hedge ih => exact (hend _ ih _ hedge).resolve_right List.not_mem_nil

/-- The table of reached numbers, in which a node without successors is missing. -/
theorem mem_reaches_iff (x : NodeId) (hx : x ∈ g.nodes) (y : NodeId) :
    y ∈ (g.reaches.get? x).getD ∅ ↔ g.Reaches x y := by
  have hget : g.reaches.get? x = if x ∈ g.nodes.filter (fun x => !(g.succs x).isEmpty) then
      some (g.spread ((g.succs x).length + g.size) (g.succs x) ∅) else none :=
    Table.find?_map (fun x => g.spread ((g.succs x).length + g.size) (g.succs x) ∅) _ x
  rw [hget]
  by_cases hsuccs : g.succs x = []
  · rw [if_neg (by simp [hsuccs]), Option.getD_none]
    refine ⟨fun hc => absurd hc (DistinctList.not_mem_empty y), fun h => ?_⟩
    rcases Relation.TransGen.head'_iff.1 h with ⟨z, hz, _⟩
    rw [hsuccs] at hz
    exact absurd hz List.not_mem_nil
  · rw [if_pos (by simp [hx, hsuccs]), Option.getD_some, mem_spread_iff hg x hx]

/-! ## Components -/

/-- The component of a node: itself and what it reaches and is reached from. -/
theorem mem_component_iff (x : NodeId) (hx : x ∈ g.nodes) (y : NodeId) :
    y ∈ component g.reaches x ↔ x = y ∨ g.Reaches x y ∧ g.Reaches y x := by
  have hahead : ((g.reaches.get? x).getD ∅).contains x = true ↔ g.Reaches x x := by
    rw [DistinctList.contains_iff, mem_reaches_iff hg x hx]
  unfold component
  simp only []
  by_cases hround : g.Reaches x x
  · rw [if_pos (hahead.2 hround), DistinctList.mem_toList, DistinctList.mem_filter,
      mem_reaches_iff hg x hx, DistinctList.contains_iff]
    constructor
    · rintro ⟨hxy, hyx⟩
      exact Or.inr ⟨hxy, (mem_reaches_iff hg y (hxy.mem_nodes hg hx) x).1 hyx⟩
    · rintro (rfl | ⟨hxy, hyx⟩)
      · exact ⟨hround, (mem_reaches_iff hg x hx x).2 hround⟩
      · exact ⟨hxy, (mem_reaches_iff hg y (hxy.mem_nodes hg hx) x).2 hyx⟩
  · rw [if_neg (fun hc => hround (hahead.1 hc)), List.mem_singleton]
    refine ⟨fun h => Or.inl h.symm, ?_⟩
    rintro (rfl | ⟨hxy, hyx⟩)
    · rfl
    · exact absurd (hxy.trans hyx) hround

omit hg in
theorem component_nodup (x : NodeId) : (component g.reaches x).Nodup := by
  unfold component
  simp only
  split
  · exact DistinctList.nodup _
  · exact List.nodup_singleton x

theorem component_classes (x : NodeId) (hx : x ∈ g.nodes) (y : NodeId) :
    y ∈ component g.reaches x ↔ Relation.ReflTransGen (fun x y => y ∈ g.succs x) x y ∧
      Relation.ReflTransGen (fun x y => y ∈ g.succs x) y x := by
  rw [mem_component_iff hg x hx, Relation.reflTransGen_iff_eq_or_transGen,
    Relation.reflTransGen_iff_eq_or_transGen]
  constructor
  · rintro (rfl | ⟨hxy, hyx⟩)
    · exact ⟨Or.inl rfl, Or.inl rfl⟩
    · exact ⟨Or.inr hxy, Or.inr hyx⟩
  · rintro ⟨hxy, hyx⟩
    rcases hxy with rfl | hxy
    · exact Or.inl rfl
    · rcases hyx with rfl | hyx
      · exact Or.inl rfl
      · exact Or.inr ⟨hxy, hyx⟩

theorem mem_component_self (x : NodeId) (hx : x ∈ g.nodes) : x ∈ component g.reaches x :=
  (mem_component_iff hg x hx x).2 (Or.inl rfl)

theorem mem_nodes_of_mem_component (x : NodeId) (hx : x ∈ g.nodes) (y : NodeId)
    (hy : y ∈ component g.reaches x) : y ∈ g.nodes := by
  rcases (mem_component_iff hg x hx y).1 hy with rfl | ⟨hxy, _⟩
  · exact hx
  · exact hxy.mem_nodes hg hx

/-- The component of a node is that of each of its members. -/
theorem mem_component_iff_of_mem (x : NodeId) (hx : x ∈ g.nodes) (y : NodeId)
    (hy : y ∈ component g.reaches x) (z : NodeId) :
    z ∈ component g.reaches y ↔ z ∈ component g.reaches x := by
  rcases (component_classes hg x hx y).1 hy with ⟨hxy, hyx⟩
  rw [component_classes hg x hx,
    component_classes hg y (mem_nodes_of_mem_component hg x hx y hy)]
  exact ⟨fun h => ⟨hxy.trans h.1, h.2.trans hyx⟩, fun h => ⟨hyx.trans h.1, h.2.trans hxy⟩⟩

theorem mem_component_of_common (x y z : NodeId) (hx : x ∈ g.nodes) (hy : y ∈ g.nodes)
    (hzx : z ∈ component g.reaches x) (hzy : z ∈ component g.reaches y) :
    x ∈ component g.reaches y :=
  (mem_component_iff_of_mem hg y hy z hzy x).1
    ((mem_component_iff_of_mem hg x hx z hzx x).2 (mem_component_self hg x hx))

omit hg in
-- A component is listed at the node that is its least member.
theorem mem_components_iff (c : List NodeId) :
    c ∈ g.components ↔
      ∃ x ∈ g.nodes, (∀ y ∈ component g.reaches x, x ≤ y) ∧ component g.reaches x = c := by
  simp only [components, List.mem_filterMap, List.mem_map, List.all_eq_true, decide_eq_true_eq,
    exists_exists_and_eq_and, Option.ite_none_right_eq_some, Option.some.injEq]

/-- Two nodes that are the least of components with a common member are the same. -/
theorem components_disjoint : g.components.Pairwise List.Disjoint := by
  rw [components, List.pairwise_filterMap, List.pairwise_map]
  refine hg.nodup.imp_of_mem ?_
  intro x y hx hy hne c hc d hd z hzc hzd
  simp only [Option.ite_none_right_eq_some, List.all_eq_true, decide_eq_true_eq,
    Option.some.injEq] at hc hd
  rcases hc with ⟨hleast, rfl⟩
  rcases hd with ⟨hleast', rfl⟩
  have hxy := mem_component_of_common hg x y z hx hy hzc hzd
  have hyx := mem_component_of_common hg y x z hy hx hzd hzc
  exact hne (le_antisymm (hleast y hyx) (hleast' x hxy))

/-- The component of a node is listed, at the least of its members. -/
theorem exists_mem_components (x : NodeId) (hx : x ∈ g.nodes) : ∃ c ∈ g.components, x ∈ c := by
  have hself := mem_component_self hg x hx
  cases hmin : (component g.reaches x).min? with
  | none =>
      rw [List.min?_eq_none_iff.1 hmin] at hself
      exact absurd hself List.not_mem_nil
  | some m =>
      rcases List.min?_eq_some_iff.1 hmin with ⟨hm, hle⟩
      have hsame := mem_component_iff_of_mem hg x hx m hm
      refine ⟨component g.reaches m, (mem_components_iff _).2 ⟨m, ?_, ?_, rfl⟩, (hsame x).2 hself⟩
      · exact mem_nodes_of_mem_component hg x hx m hm
      · exact fun y hy => hle y ((hsame y).1 hy)

/-- The components that are found are the strongly connected components. -/
theorem components_areComponents :
    AreComponents (· ∈ g.nodes) (fun x y => y ∈ g.succs x) g.components := by
  constructor
  case nonempty =>
    rintro c hc rfl
    rcases (mem_components_iff []).1 hc with ⟨x, hx, _, hnil⟩
    have hself := mem_component_self hg x hx
    rw [hnil] at hself
    exact List.not_mem_nil hself
  case nodup =>
    rw [List.nodup_flatten]
    refine ⟨fun c hc => ?_, components_disjoint hg⟩
    rcases (mem_components_iff c).1 hc with ⟨x, _, _, rfl⟩
    exact component_nodup x
  case nodes =>
    intro x
    refine ⟨?_, exists_mem_components hg x⟩
    rintro ⟨c, hc, hx⟩
    rcases (mem_components_iff c).1 hc with ⟨y, hy, _, rfl⟩
    exact mem_nodes_of_mem_component hg y hy x hx
  case classes =>
    intro c hc x hx y
    rcases (mem_components_iff c).1 hc with ⟨w, hw, _, rfl⟩
    rw [← mem_component_iff_of_mem hg w hw x hx y,
      component_classes hg x (mem_nodes_of_mem_component hg w hw x hx)]

end Proper

end Directed

/-! ## The algorithms of the library -/

theorem Iterator.mem_numbers (g : Iterator) (x : NodeId) : x ∈ g.numbers ↔ g.Has x := by
  rw [numbers, List.mem_map, Has]
  constructor
  · rintro ⟨n, hn, rfl⟩
    exact ⟨Int.natCast_nonneg n, Int.lt_toNat.1 (List.mem_range.1 hn)⟩
  · rintro ⟨hlow, hhigh⟩
    have hcast : (x.toNat : Int) = x := Int.toNat_of_nonneg hlow
    refine ⟨x.toNat, List.mem_range.2 (Int.lt_toNat.2 ?_), hcast⟩
    rw [hcast]
    exact hhigh

theorem Iterator.numbers_nodup (g : Iterator) : g.numbers.Nodup :=
  List.nodup_range.map (fun _ _ h => Int.ofNat.inj h)

theorem findsComponents : FindsComponents Iterator.components := by
  intro g hg
  have hnumbers := funext (fun x => propext (g.mem_numbers x))
  have hproper : Directed.IsProper ⟨g.numbers, g.visit⟩ := by
    refine ⟨g.numbers_nodup, fun x hx y hy => ?_⟩
    exact (g.mem_numbers y).2 (hg.ends x ((g.mem_numbers x).1 hx) y hy)
  have hfound := Directed.components_areComponents hproper
  rw [hnumbers] at hfound
  exact hfound

theorem findsGroups : FindsGroups Directed.groups := by
  intro g hg
  have hmem : ∀ x, x ∈ (DistinctList.ofList g.nodes).toList ↔ x ∈ g.nodes := fun x => by simp
  have hproper : Directed.IsProper { g with nodes := (DistinctList.ofList g.nodes).toList } :=
    ⟨DistinctList.nodup _, fun x hx y hy => (hmem y).2 (hg.ends x ((hmem x).1 hx) y hy)⟩
  have hfound := Directed.components_areComponents hproper
  rw [funext (fun x => propext (hmem x))] at hfound
  exact hfound

theorem countsNumbers : CountsNumbers Iterator.check := by
  intro g _
  constructor
  · refine hasSize_length _ _ (g.numbers_nodup.filter _) (fun x => ?_)
    rw [List.mem_filter, g.mem_numbers, List.contains_iff_mem]
    rfl
  · refine hasSize_length _ _ (g.numbers_nodup.filter _) (fun x => ?_)
    rw [List.mem_filter, g.mem_numbers, List.isEmpty_iff]
    rfl

end View

end TaintSeed
