import Mathlib.Algebra.Group.Int.Defs
import TaintSeed.Proofs.View.Reach
import TaintSeed.View.Stats

/-!
# The Figures of a View Are Exact

The figures of a view are made in several ways. Nodes are counted by their
numbers, edges row by row. Nodes that call themselves and nodes without callees
are counted by an algorithm that goes through all numbers below the order, which
is that of the whole graph, and the view takes off the numbers below the order
that it does not have. The result is right because all numbers of a derived view
lie below the order: a number that is missing has no callees, so it has been
counted, once. Components are found by an algorithm that walks through lists of
nodes, and those with two members are counted.

The algorithms are arguments, and all that is known of them is that they are
correct. So the figures of two correct algorithms are the same, and what holds
of them holds of the figures that the library reports.

What a figure should be is said without the view's tables. A call within a view
is an edge of the call graph between two of the view's numbers, and the figures
count numbers and pairs by their calls. For the components this means classes
of numbers that reach each other by such calls.

## Main definitions

* `View.Calls`: A call within a view.
* `View.Mutual`: Two numbers reach each other by calls within a view.
* `View.Stats.Describes`: The figures are those of a view of a call graph.

## Theorems

* `View.isolated_eq`: What is left after the subtraction are the numbers without callees.
* `View.mutual_iff_connected`: The classes are the components.
* `View.statsBy_describes`: The figures are exact, whatever correct algorithms are used.
* `View.statsBy_eq_stats`: They do not depend on the algorithms.
* `View.stats_exact`: Every derived view has its exact figures.
-/

namespace TaintSeed

namespace View

/-! ## Figures can be computed -/

-- The order is that of the whole graph, whichever part the view is.
theorem DerivedFrom.hasRoom_eq_true {g : Graph} {v : View} (hv : v.DerivedFrom g)
    (hroom : (g.size : Int) ≤ 2 ^ 45) : v.hasRoom = true := by
  have hbound : (g.size : Int) ≤ Int.pow 2 45 := hroom
  rw [hasRoom, hv.order_eq, decide_eq_true hbound, decide_eq_true (Int.natCast_nonneg g.size)]
  rfl

theorem mem_distinctKeys (v : View) (x : NodeId) : x ∈ v.distinctKeys ↔ x ∈ v.keys := by
  rw [distinctKeys, DistinctList.mem_toList, DistinctList.mem_ofList]

/-- The figures of a derived view can be computed if there is room for the numbers of its graph. -/
theorem stats?_eq_ok (g : Graph) (v : View) (hv : v.DerivedFrom g)
    (hroom : (g.size : Int) ≤ 2 ^ 45) : v.stats? = .ok v.stats := by
  have hw := hv.wellFormed
  have hstray : v.vertices.findSome? v.strayCallee? = none := by
    refine List.findSome?_eq_none_iff.2 (fun x _ => ?_)
    -- A callee is a number of the view, and all of these are in range.
    have hnone : (v.succs x).find? (fun y => !v.isInRange y) = none := by
      refine List.find?_eq_none.2 (fun y hy => ?_)
      have hkey : y ∈ v.keys := hw.ends x y ((mem_succs_iff v x y).1 hy)
      rw [hv.inRange y hkey]
      exact Bool.false_ne_true
    rw [strayCallee?, hnone]
    rfl
  rw [stats?, if_pos (hv.hasRoom_eq_true hroom), hstray]

/-! ## Nodes and edges -/

/-- The nodes that the view lists are the nodes in it. -/
theorem mem_callNodes_iff (v : View) (hv : v.WellFormed) (n : Node) :
    n ∈ v.callNodes ↔ v.contains n = true := by
  rw [callNodes, List.mem_filterMap]
  constructor
  · rintro ⟨x, _, hn⟩
    exact ((hv.node?_eq_some_iff x n).1 hn).1
  · intro hc
    have hn : v.node? n.id = some n := (hv.node?_eq_some_iff n.id n).2 ⟨hc, rfl⟩
    refine ⟨n.id, (hv.node n.id).2 ?_, hn⟩
    rw [hn]
    rfl

theorem callNodes_nodup (v : View) (hv : v.WellFormed) : v.callNodes.Nodup := by
  refine List.Nodup.filterMap (fun x y n hx hy => ?_) hv.nodup
  exact ((hv.node?_eq_some_iff x n).1 hx).2.symm.trans ((hv.node?_eq_some_iff y n).1 hy).2

-- No number is lost where nodes are looked up by number.
theorem length_filterMap_node? (v : View) (hv : v.WellFormed) (ids : List NodeId)
    (hids : ∀ x ∈ ids, x ∈ v.keys) : (ids.filterMap v.node?).length = ids.length := by
  refine List.filterMap_length_eq_length.2 (fun x hx => ?_)
  exact (hv.node x).1 (hids x hx)

/-- A call within a view: an edge of the call graph between two numbers of the view. -/
def Calls (v : View) (g : Graph) (x y : NodeId) : Prop :=
  x ∈ v.keys ∧ y ∈ v.keys ∧ (x, y) ∈ g.edges

/-! ## Nodes without callees -/

/-- What is left of the numbers below the order without callees, when those are taken off that the
    view lacks, are the numbers of the view without callees. -/
theorem isolated_eq (v : View) (hv : v.WellFormed) (hr : v.InRange) (horder : 0 ≤ v.order)
    (k : Int) (hk : HasSize {x | v.iterator.Has x ∧ v.iterator.visit x = []} k) :
    k - (v.order - (v.length : Int))
      = ((v.keys.filter (fun x => (v.succs x).isEmpty)).length : Int) := by
  have hnumbers := v.iterator.numbers_nodup
  have hcounted : k = (v.iterator.numbers.filter (fun x => (v.succs x).isEmpty)).length := by
    refine hk.2.symm.trans (hasSize_length _ _ (hnumbers.filter _) (fun x => ?_)).2
    have hvisit : v.iterator.visit x = v.succs x := visited_eq v hv x
    rw [Set.mem_ofPred_eq, hvisit, List.mem_filter, v.iterator.mem_numbers, List.isEmpty_iff]
  -- A number with a callee is a number of the view, so the others account for the difference.
  have hsame : (v.iterator.numbers.filter (fun x => !(v.succs x).isEmpty)).length
      = (v.keys.filter (fun x => !(v.succs x).isEmpty)).length := by
    refine length_eq_of_mem_iff _ _ (hnumbers.filter _) (hv.nodup.filter _) (fun x => ?_)
    rw [List.mem_filter, List.mem_filter, v.iterator.mem_numbers, ← isInRange_iff]
    refine and_congr_left (fun hsome => ⟨fun _ => ?_, fun hx => hr x hx⟩)
    rcases List.exists_mem_of_ne_nil (v.succs x) (by simpa using hsome) with ⟨y, hy⟩
    exact hv.starts x y ((mem_succs_iff v x y).1 hy)
  have hlength : (v.iterator.numbers.length : Int) = v.order := by
    rw [Iterator.numbers, List.length_map, List.length_range]
    exact Int.toNat_of_nonneg horder
  have hall := v.iterator.numbers.length_eq_length_filter_add (fun x => (v.succs x).isEmpty)
  have hkeys := v.keys.length_eq_length_filter_add (fun x => (v.succs x).isEmpty)
  rw [length, hcounted]
  omega

/-! ## Components -/

/-- Each of the numbers can be reached from the other by calls within the view. -/
def Mutual (v : View) (g : Graph) (x y : NodeId) : Prop :=
  Relation.ReflTransGen (v.Calls g) x y ∧ Relation.ReflTransGen (v.Calls g) y x

section Derived

variable {g : Graph} {v : View} (hv : v.DerivedFrom g)
include hv

theorem calls_eq : v.Calls g = fun x y => v.hasEdge x y = true := by
  funext x y
  exact propext (hv.hasEdge_iff_mem_edges x y).symm

/-- Numbers that reach each other are connected, and no others. -/
theorem mutual_iff_connected (x y : NodeId) : v.Mutual g x y ↔ v.Connected x y := by
  rw [Mutual, calls_eq hv, connected_iff]

variable {groups : Directed → List (List NodeId)} (hgroups : FindsGroups groups)
include hgroups

/-- The classes with two members are the sets of members of the components with two members. -/
theorem isClass_iff (C : Set NodeId) :
    (C.Nontrivial ∧ ∃ x, C = {y | v.Mutual g x y}) ↔
      C ∈ ((groups v.directed).filter (fun c => decide (1 < c.length))).map
        (fun c => {y | y ∈ c}) := by
  have hw := hv.wellFormed
  simp only [mutual_iff_connected hv, List.mem_map, List.mem_filter, decide_eq_true_eq]
  constructor
  · rintro ⟨⟨a, ha, b, hb, hne⟩, x, rfl⟩
    -- Two members are connected with each other through the number that the class is of.
    rcases exists_group hgroups hw hne (ha.symm.trans hb) with ⟨c, hc, hlen, hac, _⟩
    refine ⟨c, ⟨hc, hlen⟩, ?_⟩
    ext y
    exact (hw.mem_group_iff hgroups hc hac y).trans ⟨ha.trans, ha.symm.trans⟩
  · rintro ⟨c, ⟨hc, hlen⟩, rfl⟩
    rcases List.exists_mem_of_ne_nil c ((hw.areGroups hgroups).nonempty c hc) with ⟨x, hx⟩
    rcases exists_ne_of_mem_group hgroups hw hc hlen x with ⟨y, hy, hne⟩
    refine ⟨⟨y, hy, x, hx, hne⟩, x, ?_⟩
    ext z
    exact hw.mem_group_iff hgroups hc hx z

-- Components with a common member are the same, and so are those with the same members.
theorem nodup_map_groups :
    (((groups v.directed).filter (fun c => decide (1 < c.length))).map
      (fun c => {y : NodeId | y ∈ c})).Nodup := by
  have hfound := hv.wellFormed.areGroups hgroups
  have hdisjoint := (List.nodup_flatten.1 hfound.nodup).2
  have hnodup : (groups v.directed).Nodup := by
    refine hdisjoint.imp_of_mem (fun {c d} hc _ hcd heq => ?_)
    subst heq
    rcases List.exists_mem_of_ne_nil c (hfound.nonempty c hc) with ⟨x, hx⟩
    exact hcd hx hx
  refine List.Nodup.map_on ?_ (hnodup.filter _)
  intro c hc d hd hcd
  have hc' := List.mem_of_mem_filter hc
  rcases List.exists_mem_of_ne_nil c (hfound.nonempty c hc') with ⟨x, hx⟩
  have hx' : x ∈ {y | y ∈ d} := hcd ▸ hx
  have hsymm : Std.Symm (List.Disjoint : List NodeId → List NodeId → Prop) :=
    ⟨fun _ _ h => h.symm⟩
  by_contra hne
  exact hdisjoint.forall hc' (List.mem_of_mem_filter hd) hne hx hx'

end Derived

/-! ## All figures -/

/-- The figures are those of the view `v` of the call graph `g`. -/
structure Stats.Describes (s : Stats) (g : Graph) (v : View) : Prop where
  /-- The number of nodes. -/
  nodes : HasSize {n : Node | v.contains n = true} s.nodes
  /-- The number of calls within the view. -/
  edges : HasSize {e : NodeId × NodeId | v.Calls g e.1 e.2} s.edges
  /-- The number of nodes that call themselves. -/
  loops : HasSize {x | v.Calls g x x} s.loops
  /-- The number of nodes of the view that call no node of it. -/
  isolated : HasSize {x | x ∈ v.keys ∧ ∀ y, ¬v.Calls g x y} s.isolated
  /-- The number of classes, with two members or more, of numbers that reach each other. -/
  recursive : HasSize {C : Set NodeId | C.Nontrivial ∧ ∃ x, C = {y | v.Mutual g x y}} s.recursive

-- What the loop over the components counts.
theorem foldl_recursive (cs : List (List NodeId)) (k : Nat) :
    cs.foldl (fun k c => if 1 < c.length then k + 1 else k) k
      = k + (cs.filter (fun c => decide (1 < c.length))).length := by
  induction cs generalizing k with
  | nil => rfl
  | cons c cs ih =>
      rw [List.foldl_cons, ih]
      by_cases hc : 1 < c.length
      · rw [if_pos hc, List.filter_cons_of_pos (by simpa using hc), List.length_cons]
        omega
      · rw [if_neg hc, List.filter_cons_of_neg (by simpa using hc)]

section Figures

variable {check : Iterator → Iterator.Check} (hcheck : CountsNumbers check)
  {groups : Directed → List (List NodeId)} (hgroups : FindsGroups groups) {g : Graph} {v : View}
  (hv : v.DerivedFrom g)
include hcheck hgroups hv

/-- The figures are exact, whatever correct algorithms are used. -/
theorem statsBy_describes : (v.statsBy check groups).Describes g v := by
  have hw := hv.wellFormed
  have hcalls : ∀ x y, v.Calls g x y ↔ v.hasEdge x y = true :=
    fun x y => (hv.hasEdge_iff_mem_edges x y).symm
  rcases hcheck v.iterator (iterator_isProper hw hv.inRange) with ⟨hloops, hisolated⟩
  constructor
  case nodes =>
    have hlength : v.callNodes.length = (v.statsBy check groups).nodes :=
      length_filterMap_node? v hw v.keys (fun _ hx => hx)
    rw [← hlength]
    exact hasSize_length _ _ (callNodes_nodup v hw) (fun n => (mem_callNodes_iff v hw n).symm)
  case edges =>
    simp only [hcalls]
    rcases ncard_edges v hw with ⟨hfinite, hcard⟩
    exact ⟨hfinite, congrArg Int.ofNat hcard⟩
  case loops =>
    have hset : {x | v.Calls g x x} = {x | v.iterator.Has x ∧ x ∈ v.iterator.visit x} := by
      ext x
      rw [Set.mem_ofPred_eq, Set.mem_ofPred_eq, hcalls, mem_visit_iterator hw, ← isInRange_iff]
      exact ⟨fun h => ⟨hv.inRange x (hw.starts x x h), h⟩, fun h => h.2⟩
    rw [hset]
    exact hloops
  case isolated =>
    have horder : 0 ≤ v.order := by
      rw [hv.order_eq]
      exact Int.natCast_nonneg g.size
    have hdef : (v.statsBy check groups).isolated
        = ((check v.iterator).isolated : Int) - (v.order - (v.length : Int)) := rfl
    rw [hdef, isolated_eq v hw hv.inRange horder _ hisolated]
    refine hasSize_length _ _ (hw.nodup.filter _) (fun x => ?_)
    rw [List.mem_filter, List.isEmpty_iff, List.eq_nil_iff_forall_not_mem, Set.mem_ofPred_eq]
    simp only [hcalls, mem_succs_iff]
  case recursive =>
    have hcount : (v.statsBy check groups).recursive
        = (((groups v.directed).filter (fun c => decide (1 < c.length))).map
          (fun c => {y : NodeId | y ∈ c})).length := by
      rw [List.length_map, ← Nat.zero_add (List.length _), ← foldl_recursive]
      rfl
    rw [hcount]
    exact hasSize_length _ _ (nodup_map_groups hv hgroups) (isClass_iff hv hgroups)

/-- The figures do not depend on the algorithms. -/
theorem statsBy_eq_stats : v.statsBy check groups = v.stats := by
  have h := statsBy_describes hcheck hgroups hv
  have h' := statsBy_describes countsNumbers findsGroups hv
  have hloops : (v.statsBy check groups).loops = v.stats.loops :=
    Int.ofNat.inj (h.loops.2.symm.trans h'.loops.2)
  have hrecursive : (v.statsBy check groups).recursive = v.stats.recursive :=
    Int.ofNat.inj (h.recursive.2.symm.trans h'.recursive.2)
  have hisolated : (v.statsBy check groups).isolated = v.stats.isolated :=
    h.isolated.2.symm.trans h'.isolated.2
  exact Stats.ext rfl rfl hloops hisolated hrecursive

end Figures

/-- Every view that is made from a call graph by taking parts has its exact figures, whatever
    numbers below the order it lacks, if the algorithms that they are computed with are correct.
    These are the figures that the library reports if there is room for the numbers of the
    graph. -/
theorem stats_exact (check : Iterator → Iterator.Check) (hcheck : CountsNumbers check)
    (groups : Directed → List (List NodeId)) (hgroups : FindsGroups groups) (g : Graph) (v : View)
    (hv : v.DerivedFrom g) :
    ((g.size : Int) ≤ 2 ^ 45 → v.stats? = .ok (v.statsBy check groups)) ∧
      (v.statsBy check groups).Describes g v := by
  refine ⟨fun hroom => ?_, statsBy_describes hcheck hgroups hv⟩
  rw [statsBy_eq_stats hcheck hgroups hv]
  exact stats?_eq_ok g v hv hroom

/-- Of the sample the circle, without the node that it calls on the way. -/
def callbackCircle : View := (ofGraph .callback).restrict [2, 7, 0, 1, 1]

/-- The circle lacks a number below the order, which is not taken for a node without callees, and
    it is one class. -/
theorem stats_exact_callback :
    callbackCircle.DerivedFrom .callback ∧ CountsNumbers Iterator.check ∧
    FindsGroups Directed.groups ∧ callbackCircle.stats? = .ok ⟨3, 4, 1, 0, 1⟩ ∧
    HasSize {x | callbackCircle.Calls .callback x x} 1 ∧
    HasSize {x | x ∈ callbackCircle.keys ∧ ∀ y, ¬callbackCircle.Calls .callback x y} 0 ∧
    HasSize {C : Set NodeId | C.Nontrivial ∧
      ∃ x, C = {y | callbackCircle.Mutual .callback x y}} 1 := by
  have hv : callbackCircle.DerivedFrom .callback :=
    .restrict _ (.whole Graph.callback_built (by decide))
  have hstats : callbackCircle.statsBy Iterator.check Directed.groups = ⟨3, 4, 1, 0, 1⟩ := by
    rw [statsBy, directed_eq]
    cbv
  rcases stats_exact _ countsNumbers _ findsGroups .callback callbackCircle hv with
    ⟨hok, hfigures⟩
  rw [hstats] at hok hfigures
  exact ⟨hv, countsNumbers, findsGroups, hok (by decide), hfigures.loops, hfigures.isolated,
    hfigures.recursive⟩

end View

end TaintSeed
