import Mathlib.Algebra.Group.Int.Defs
import Mathlib.Data.List.Sort
import Mathlib.Order.Basic
import TaintSeed.Proofs.CallGraph.Built
import TaintSeed.View.Basic

/-!
# Views as They Are Derived

A view keeps the same information several times: the numbers of its nodes as
a list and as the keys of two tables, and its edges in both directions. This
module says that the copies agree in every view that is made from a call graph
by taking parts.

`DerivedFrom` are these views. The base case asks that the number of nodes of
the graph is a number of 64 bits, because the order of the view is one; above
that the order wraps around and the numbers of the nodes would not lie below
it. No program holds such a graph.

`WellFormed` is what the copies have to do with each other. It is proved once
for the view of a whole graph and once for a part of a view, and
`DerivedFrom.wellFormed` carries it along the derivation. Everything else about
parts follows from two equations, `mem_keys_restrict` and `hasEdge_restrict`: a
part has the wanted numbers that are there, and every edge between two of them.

## Main definitions

* `View.WellFormed`: The parts of a view agree.
* `View.DerivedFrom`: The view is made from a call graph by taking parts.

## Theorems

* `View.ofGraph_wellFormed`: The view of a whole graph is well-formed.
* `View.mem_keys_restrict`: The numbers of a part.
* `View.hasEdge_restrict`: The edges of a part.
* `View.node?_restrict`: The nodes of a part.
* `View.restrict_wellFormed`: A part of a well-formed view is well-formed.
* `View.DerivedFrom.wellFormed`: A derived view is well-formed.
* `View.DerivedFrom.key_range`: The numbers of a derived view lie below the order.
* `View.DerivedFrom.hasEdge_iff_mem_edges`: The edges of a derived view.
-/

namespace TaintSeed

namespace View

/-! ## Numbers in order, and edges by number -/

@[simp] theorem mem_increasing (ids : List NodeId) (x : NodeId) : x ∈ increasing ids ↔ x ∈ ids :=
  List.mem_mergeSort

/-- Distinct numbers come out strictly increasing. -/
theorem increasing_pairwise (ids : List NodeId) (hn : ids.Nodup) :
    (increasing ids).Pairwise (· < ·) := by
  have hle : (increasing ids).Pairwise (fun a b => decide (a ≤ b) = true) := by
    refine List.pairwise_mergeSort ?_ ?_ ids
    · intro a b c hab hbc
      rw [decide_eq_true_iff] at hab hbc ⊢
      exact le_trans hab hbc
    · intro a b
      simpa using le_total a b
  have hne : (increasing ids).Pairwise (· ≠ ·) :=
    (List.mergeSort_perm ids _).nodup_iff.2 hn
  refine (hle.and hne).imp ?_
  rintro a b ⟨hab, hab'⟩
  exact lt_of_le_of_ne (of_decide_eq_true hab) hab'

/-- Numbers that are in order stay where they are. -/
theorem increasing_eq_self (ids : List NodeId) (hs : ids.Pairwise (· < ·)) :
    increasing ids = ids := by
  refine List.mergeSort_of_pairwise (hs.imp ?_)
  intro a b hab
  exact decide_eq_true (le_of_lt hab)

@[simp] theorem hasEdge_iff (v : View) (x y : NodeId) :
    v.hasEdge x y = true ↔ y ∈ (v.edges.get? x).getD ∅ :=
  DistinctList.contains_iff

/-- The successors of a number are the ends of its edges. -/
theorem mem_succs_iff (v : View) (x y : NodeId) : y ∈ v.succs x ↔ v.hasEdge x y = true := by
  rw [succs, mem_increasing, hasEdge_iff, DistinctList.mem_toList]

/-- Successors are listed once each, in increasing order. -/
theorem succs_pairwise (v : View) (x : NodeId) : (v.succs x).Pairwise (· < ·) :=
  increasing_pairwise _ (DistinctList.nodup _)

/-! ## Edges turned around -/

theorem mem_turn_members (x : NodeId) (ys : List NodeId)
    (rev : Table NodeId (DistinctList NodeId)) (y z : NodeId) :
    z ∈ ((ys.foldl (fun rev y => rev.modify y ∅ (fun s => s.insert x)) rev).get? y).getD ∅ ↔
      z ∈ (rev.get? y).getD ∅ ∨ z = x ∧ y ∈ ys := by
  induction ys generalizing rev with
  | nil => simp
  | cons w ys ih =>
      rw [List.foldl_cons, ih, Table.get?_modify]
      by_cases hw : w = y
      · subst hw
        simp only [↓reduceIte, Option.getD_some, DistinctList.mem_insert, List.mem_cons, true_or,
          and_true]
        tauto
      · rw [if_neg hw, List.mem_cons]
        have hne : y ≠ w := Ne.symm hw
        tauto

theorem mem_turn_entries (es : List (NodeId × DistinctList NodeId))
    (rev : Table NodeId (DistinctList NodeId)) (y z : NodeId) :
    z ∈ ((es.foldl (fun rev e =>
        e.2.toList.foldl (fun rev y => rev.modify y ∅ (fun s => s.insert e.1)) rev) rev).get? y).getD
        ∅ ↔ z ∈ (rev.get? y).getD ∅ ∨ ∃ s, (z, s) ∈ es ∧ y ∈ s := by
  induction es generalizing rev with
  | nil => simp
  | cons e es ih =>
      rw [List.foldl_cons, ih, mem_turn_members]
      constructor
      · rintro ((hz | ⟨rfl, hy⟩) | ⟨s, hs, hy⟩)
        · exact Or.inl hz
        · exact Or.inr ⟨e.2, List.mem_cons_self, hy⟩
        · exact Or.inr ⟨s, List.mem_cons_of_mem e hs, hy⟩
      · rintro (hz | ⟨s, hs, hy⟩)
        · exact Or.inl (Or.inl hz)
        · rcases List.mem_cons.1 hs with rfl | ht
          · exact Or.inl (Or.inr ⟨rfl, hy⟩)
          · exact Or.inr ⟨s, ht, hy⟩

/-- Where no number has two entries, turning the edges around gives the transpose. -/
theorem mem_turned (edges : Table NodeId (DistinctList NodeId)) (hn : edges.keys.Nodup)
    (x y : NodeId) :
    x ∈ ((turned edges).get? y).getD ∅ ↔ y ∈ (edges.get? x).getD ∅ := by
  rw [turned, mem_turn_entries, Table.get?_empty, Option.getD_none]
  constructor
  · rintro (hx | ⟨s, hs, hy⟩)
    · exact absurd hx (DistinctList.not_mem_empty x)
    · rw [(Table.get?_eq_some_iff edges hn x s).2 hs]
      exact hy
  · intro hy
    cases hget : edges.get? x with
    | none =>
        rw [hget] at hy
        exact absurd hy (DistinctList.not_mem_empty y)
    | some s =>
        rw [hget] at hy
        exact Or.inr ⟨s, (Table.get?_eq_some_iff edges hn x s).1 hget, hy⟩

/-! ## Well-formed views -/

/-- The list of numbers, the two tables and the turned edges of a view agree. -/
structure WellFormed (v : View) : Prop where
  /-- The numbers are listed once each, in increasing order. -/
  sorted : v.keys.Pairwise (· < ·)
  /-- A number is listed when it has a node. -/
  node : ∀ x, x ∈ v.keys ↔ (v.node? x).isSome = true
  /-- The node of a number has that number. -/
  numbered : ∀ x n, v.node? x = some n → n.id? = some x
  /-- The table of edges has the listed numbers as keys. -/
  edges : v.edges.keys = v.keys
  /-- Edges lead to listed numbers. -/
  ends : ∀ x y, v.hasEdge x y = true → y ∈ v.keys
  /-- The predecessors are the beginnings of edges. -/
  reverse : ∀ x y, x ∈ v.preds y ↔ v.hasEdge x y = true

theorem WellFormed.nodup {v : View} (hv : v.WellFormed) : v.keys.Nodup :=
  hv.sorted.imp (fun hab => ne_of_lt hab)

/-- Edges start from listed numbers. -/
theorem WellFormed.starts {v : View} (hv : v.WellFormed) (x y : NodeId)
    (he : v.hasEdge x y = true) : x ∈ v.keys := by
  rw [hasEdge_iff] at he
  rw [← hv.edges, ← Table.contains_iff, Table.contains]
  cases hget : v.edges.get? x with
  | none =>
      rw [hget] at he
      exact absurd he (DistinctList.not_mem_empty y)
  | some s => rfl

/-- The node of a number is the node in the view that has this number. -/
theorem WellFormed.node?_eq_some_iff {v : View} (hv : v.WellFormed) (x : NodeId) (n : Node) :
    v.node? x = some n ↔ v.contains n = true ∧ n.id = x := by
  unfold contains
  constructor
  · intro hn
    have hid : n.id? = some x := hv.numbered x n hn
    rw [hid]
    exact ⟨beq_iff_eq.2 hn, by rw [Node.id, hid, Option.getD_some]⟩
  · rintro ⟨hc, rfl⟩
    cases hid : n.id? with
    | none =>
        rw [hid] at hc
        cases hc
    | some id =>
        rw [hid] at hc
        rw [Node.id, hid]
        exact beq_iff_eq.1 hc

/-- The predecessors of a view whose edges were turned around. -/
theorem mem_preds_of_turned (v : View) (hr : v.reverse = turned v.edges)
    (hn : v.edges.keys.Nodup) (x y : NodeId) : x ∈ v.preds y ↔ v.hasEdge x y = true := by
  rw [preds, mem_increasing, DistinctList.mem_toList, hr, mem_turned v.edges hn, hasEdge_iff]

/-! ## The view of a whole graph -/

section Whole

variable {g : Graph}

theorem keys_ofGraph (hg : g.WellFormed) : (ofGraph g).keys = g.nodes.map Node.id :=
  increasing_eq_self _ hg.pairwise_id

theorem node?_ofGraph (hg : g.WellFormed) (n : Node) (hn : n ∈ g.nodes) :
    (ofGraph g).node? n.id = some n :=
  Table.get?_foldl_set_of_mem Node.id (fun n => n) g.nodes ∅ hg.nodup_id n hn

theorem node?_ofGraph_of_not_mem (x : NodeId) (hx : x ∉ g.nodes.map Node.id) :
    (ofGraph g).node? x = none :=
  Table.get?_foldl_set_of_not_mem Node.id (fun n => n) g.nodes ∅ x hx

theorem edgeKeys_ofGraph (hg : g.WellFormed) : (ofGraph g).edges.keys = g.nodes.map Node.id :=
  Table.keys_foldl_set Node.id (fun n => DistinctList.ofList ((g.succs n).map Node.id)) g.nodes ∅
    hg.nodup_id

theorem hasEdge_ofGraph_iff (hg : g.WellFormed) (m : Node) (hm : m ∈ g.nodes) (y : NodeId) :
    (ofGraph g).hasEdge m.id y = true ↔ ∃ n ∈ g.succs m, n.id = y := by
  have hget : (ofGraph g).edges.get? m.id
      = some (DistinctList.ofList ((g.succs m).map Node.id)) :=
    Table.get?_foldl_set_of_mem Node.id
      (fun n => DistinctList.ofList ((g.succs n).map Node.id)) g.nodes ∅ hg.nodup_id m hm
  rw [hasEdge_iff, hget, Option.getD_some, DistinctList.mem_ofList, List.mem_map]

/-- The edges of the view of a whole graph are those of the graph. -/
theorem hasEdge_ofGraph (hg : g.WellFormed) (m n : Node) (hm : m ∈ g.nodes) (hn : n ∈ g.nodes) :
    (ofGraph g).hasEdge m.id n.id = true ↔ g.hasEdge m n = true := by
  rw [hasEdge_ofGraph_iff hg m hm]
  constructor
  · rintro ⟨n', hn', hid⟩
    rw [Graph.mem_succs_iff] at hn'
    rw [← hg.eq_of_id_eq n' n hn'.1 hn hid]
    exact hn'.2
  · intro he
    exact ⟨n, (Graph.mem_succs_iff g m n).2 ⟨hn, he⟩, rfl⟩

/-- An edge of the view of a whole graph joins two nodes of the graph. -/
theorem exists_of_hasEdge_ofGraph (hg : g.WellFormed) (x y : NodeId)
    (he : (ofGraph g).hasEdge x y = true) :
    ∃ m ∈ g.nodes, ∃ n ∈ g.nodes, m.id = x ∧ n.id = y := by
  by_cases hx : x ∈ g.nodes.map Node.id
  · rcases List.mem_map.1 hx with ⟨m, hm, rfl⟩
    rcases (hasEdge_ofGraph_iff hg m hm y).1 he with ⟨n, hn, hid⟩
    exact ⟨m, hm, n, ((Graph.mem_succs_iff g m n).1 hn).1, rfl, hid⟩
  · have hget : (ofGraph g).edges.get? x = none :=
      Table.get?_foldl_set_of_not_mem Node.id
        (fun n => DistinctList.ofList ((g.succs n).map Node.id)) g.nodes ∅ x hx
    rw [hasEdge_iff, hget, Option.getD_none] at he
    exact absurd he (DistinctList.not_mem_empty y)

theorem ofGraph_wellFormed (hg : g.WellFormed) : (ofGraph g).WellFormed where
  sorted := by
    rw [keys_ofGraph hg]
    exact hg.pairwise_id
  node := by
    intro x
    rw [keys_ofGraph hg]
    constructor
    · intro hx
      rcases List.mem_map.1 hx with ⟨n, hn, rfl⟩
      rw [node?_ofGraph hg n hn]
      rfl
    · intro hx
      by_contra hc
      rw [node?_ofGraph_of_not_mem x hc] at hx
      cases hx
  numbered := by
    intro x n hx
    by_cases hmem : x ∈ g.nodes.map Node.id
    · rcases List.mem_map.1 hmem with ⟨m, hm, hid⟩
      rw [← hid, node?_ofGraph hg m hm, Option.some.injEq] at hx
      rw [← hid, ← hx]
      exact hg.id?_eq m hm
    · rw [node?_ofGraph_of_not_mem x hmem] at hx
      cases hx
  edges := by rw [edgeKeys_ofGraph hg, keys_ofGraph hg]
  ends := by
    intro x y he
    rcases exists_of_hasEdge_ofGraph hg x y he with ⟨_, _, n, hn, _, rfl⟩
    rw [keys_ofGraph hg]
    exact List.mem_map_of_mem hn
  reverse := by
    refine mem_preds_of_turned _ rfl ?_
    rw [edgeKeys_ofGraph hg]
    exact hg.nodup_id

/-- Counting up from zero, the number above the greatest is how many there are. -/
theorem foldl_numberAbove_range (k : Nat) (hk : (k : Int) < 2 ^ 63) :
    ((List.range k).map (fun i : Nat => (i : NodeId))).foldl
      (fun order id => if order ≤ id then numberAbove id else order) 0 = (k : Int) := by
  induction k with
  | zero => rfl
  | succ k ih =>
      have hne : ¬ (k : Int) = Int.pow 2 63 - 1 := by
        rw [show Int.pow 2 63 = 2 ^ 63 from rfl]
        omega
      have hstep : numberAbove (k : Int) = (k : Int) + 1 := if_neg hne
      rw [List.range_succ, List.map_append, List.foldl_append, ih (by omega)]
      simp [hstep]

/-- The order of the view of a graph is the number of nodes, if that is a number of 64 bits. -/
theorem order_ofGraph (hg : g.WellFormed) (hfits : (g.size : Int) < 2 ^ 63) :
    (ofGraph g).order = g.size := by
  have horder : (ofGraph g).order = (g.nodes.map Node.id).foldl
      (fun order id => if order ≤ id then numberAbove id else order) 0 := by
    rw [List.foldl_map]
    rfl
  rw [horder, hg.map_id, foldl_numberAbove_range g.nodes.length hfits]
  rfl

end Whole

/-! ## Parts of a view -/

section Part

variable {v : View} (ids : List NodeId)

/-- A part has the wanted numbers that are there. -/
theorem mem_keys_restrict (hv : v.WellFormed) (x : NodeId) :
    x ∈ (v.restrict ids).keys ↔ x ∈ ids ∧ x ∈ v.keys := by
  have hkeys : (v.restrict ids).keys
      = increasing (DistinctList.ofList (ids.filter v.nodes.contains)).toList := rfl
  rw [hkeys, mem_increasing, DistinctList.mem_toList, DistinctList.mem_ofList, List.mem_filter,
    hv.node x]
  rfl

theorem keys_restrict_pairwise : (v.restrict ids).keys.Pairwise (· < ·) :=
  increasing_pairwise _ (DistinctList.nodup _)

theorem edgeKeys_restrict : (v.restrict ids).edges.keys = (v.restrict ids).keys := by
  have hedges : (v.restrict ids).edges.keys
      = ((v.restrict ids).keys.map (fun x => (x, ((v.edges.get? x).getD ∅).filter
        (DistinctList.ofList (ids.filter v.nodes.contains)).contains))).map Prod.fst := rfl
  rw [hedges, List.map_map]
  exact List.map_id _

/-- A part has every edge between two of its numbers. -/
theorem hasEdge_restrict (x y : NodeId) :
    (v.restrict ids).hasEdge x y = true ↔
      x ∈ (v.restrict ids).keys ∧ y ∈ (v.restrict ids).keys ∧ v.hasEdge x y = true := by
  have hget : (v.restrict ids).edges.get? x = if x ∈ (v.restrict ids).keys then
      some (((v.edges.get? x).getD ∅).filter
        (DistinctList.ofList (ids.filter v.nodes.contains)).contains) else none :=
    Table.find?_map _ _ x
  have hkept : y ∈ (v.restrict ids).keys ↔
      (DistinctList.ofList (ids.filter v.nodes.contains)).contains y = true := by
    rw [DistinctList.contains_iff]
    exact mem_increasing _ y
  rw [hasEdge_iff, hget]
  by_cases hx : x ∈ (v.restrict ids).keys
  · rw [if_pos hx, Option.getD_some, DistinctList.mem_filter, hkept, hasEdge_iff]
    simp only [hx, true_and]
    exact and_comm
  · rw [if_neg hx, Option.getD_none]
    simp [hx]

-- What decides about the edges between the numbers of a view does so in a part of it.
theorem hasEdge_restrict_of_iff (hv : v.WellFormed) {x y : NodeId} {P : Prop}
    (h : v.hasEdge x y = true ↔ x ∈ v.keys ∧ y ∈ v.keys ∧ P) :
    (v.restrict ids).hasEdge x y = true ↔
      x ∈ (v.restrict ids).keys ∧ y ∈ (v.restrict ids).keys ∧ P := by
  have hsub : ∀ z ∈ (v.restrict ids).keys, z ∈ v.keys :=
    fun z hz => ((mem_keys_restrict ids hv z).1 hz).2
  rw [hasEdge_restrict, h]
  constructor
  · rintro ⟨hx, hy, _, _, hP⟩
    exact ⟨hx, hy, hP⟩
  · rintro ⟨hx, hy, hP⟩
    exact ⟨hx, hy, hsub x hx, hsub y hy, hP⟩

/-- The nodes of a part are those of the view. -/
theorem node?_restrict (x : NodeId) :
    (v.restrict ids).node? x = if x ∈ (v.restrict ids).keys then v.node? x else none :=
  Table.find?_filterMap (fun x => v.nodes.get? x) _ x

/-- A part of a well-formed view is well-formed. -/
theorem restrict_wellFormed (hv : v.WellFormed) : (v.restrict ids).WellFormed where
  sorted := keys_restrict_pairwise ids
  node := by
    intro x
    rw [node?_restrict]
    by_cases hx : x ∈ (v.restrict ids).keys
    · rw [if_pos hx, ← hv.node x]
      exact ⟨fun _ => ((mem_keys_restrict ids hv x).1 hx).2, fun _ => hx⟩
    · rw [if_neg hx]
      simp [hx]
  numbered := by
    intro x n hn
    rw [node?_restrict] at hn
    split at hn
    · exact hv.numbered x n hn
    · cases hn
  edges := edgeKeys_restrict ids
  ends := fun x y he => ((hasEdge_restrict ids x y).1 he).2.1
  reverse := by
    refine mem_preds_of_turned _ rfl ?_
    rw [edgeKeys_restrict]
    exact (keys_restrict_pairwise ids).imp (fun hab => ne_of_lt hab)

/-- The part on the nodes that satisfy a predicate has the numbers of these nodes. -/
theorem mem_keys_induced (hv : v.WellFormed) (keep : Node → Bool) (x : NodeId) :
    x ∈ (v.induced keep).keys ↔ ∃ n, v.node? x = some n ∧ keep n = true := by
  rw [induced, mem_keys_restrict _ hv, List.mem_filter, Option.any_eq_true]
  constructor
  · rintro ⟨⟨_, n, hn, hk⟩, _⟩
    exact ⟨n, hn, hk⟩
  · rintro ⟨n, hn, hk⟩
    have hx : x ∈ v.keys := by
      rw [hv.node x, hn]
      rfl
    exact ⟨⟨hx, n, hn, hk⟩, hx⟩

end Part

/-! ## Derived views -/

/-- The view is made from the call graph `g` by taking parts any number of times. -/
inductive DerivedFrom (g : Graph) : View → Prop
  /-- The view of the whole graph. The number of its nodes is a number of 64 bits. -/
  | whole (built : g.Built) (fits : (g.size : Int) < 2 ^ 63) : DerivedFrom g (ofGraph g)
  /-- The part on some numbers. -/
  | restrict {v : View} (ids : List NodeId) (derived : DerivedFrom g v) :
      DerivedFrom g (v.restrict ids)
  /-- The part on the nodes that satisfy a predicate. -/
  | induced {v : View} (keep : Node → Bool) (derived : DerivedFrom g v) :
      DerivedFrom g (v.induced keep)

namespace DerivedFrom

variable {g : Graph} {v : View}

/-- Every derived view is well-formed. -/
theorem wellFormed (hv : v.DerivedFrom g) : v.WellFormed := by
  induction hv with
  | whole built fits => exact ofGraph_wellFormed (Graph.built_wellFormed g built)
  | restrict ids _ ih => exact restrict_wellFormed ids ih
  | induced keep _ ih => exact restrict_wellFormed _ ih

/-- Parts keep the order, which is the number of nodes of the graph. -/
theorem order_eq (hv : v.DerivedFrom g) : v.order = g.size := by
  induction hv with
  | whole built fits => exact order_ofGraph (Graph.built_wellFormed g built) fits
  | restrict ids _ ih => exact ih
  | induced keep _ ih => exact ih

/-- The numbers of a derived view are numbers of nodes of the graph. -/
theorem keys_subset (hv : v.DerivedFrom g) : v.keys ⊆ g.nodes.map Node.id := by
  induction hv with
  | whole built fits =>
      rw [keys_ofGraph (Graph.built_wellFormed g built)]
      exact fun _ hx => hx
  | restrict ids hw ih =>
      intro x hx
      exact ih ((mem_keys_restrict ids hw.wellFormed x).1 hx).2
  | induced keep hw ih =>
      intro x hx
      exact ih ((mem_keys_restrict _ hw.wellFormed x).1 hx).2

theorem built (hv : v.DerivedFrom g) : g.Built := by
  induction hv with
  | whole built _ => exact built
  | restrict _ _ ih => exact ih
  | induced _ _ ih => exact ih

/-- The numbers of a derived view lie between zero and the order. -/
theorem key_range (hv : v.DerivedFrom g) (x : NodeId) (hx : x ∈ v.keys) :
    0 ≤ x ∧ x < v.order := by
  have hg : g.WellFormed := Graph.built_wellFormed g hv.built
  rcases List.mem_map.1 (hv.keys_subset hx) with ⟨n, hn, rfl⟩
  rw [hv.order_eq]
  exact hg.id_range n hn

/-- The edges of a derived view are those of the graph between two of its numbers. -/
theorem hasEdge_iff_mem_edges (hv : v.DerivedFrom g) (x y : NodeId) :
    v.hasEdge x y = true ↔ x ∈ v.keys ∧ y ∈ v.keys ∧ (x, y) ∈ g.edges := by
  induction hv with
  | whole built _ =>
      have hg := Graph.built_wellFormed g built
      rw [keys_ofGraph hg]
      constructor
      · intro he
        rcases exists_of_hasEdge_ofGraph hg x y he with ⟨m, hm, n, hn, rfl, rfl⟩
        rw [hasEdge_ofGraph hg m n hm hn] at he
        exact ⟨List.mem_map_of_mem hm, List.mem_map_of_mem hn, DistinctList.contains_iff.1 he⟩
      · rintro ⟨hx, hy, he⟩
        rcases List.mem_map.1 hx with ⟨m, hm, rfl⟩
        rcases List.mem_map.1 hy with ⟨n, hn, rfl⟩
        exact (hasEdge_ofGraph hg m n hm hn).2 (DistinctList.contains_iff.2 he)
  | restrict ids hw ih => exact hasEdge_restrict_of_iff ids hw.wellFormed ih
  | induced keep hw ih => exact hasEdge_restrict_of_iff _ hw.wellFormed ih

end DerivedFrom

end View

end TaintSeed
