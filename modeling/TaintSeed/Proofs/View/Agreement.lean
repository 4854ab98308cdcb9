import Mathlib.Algebra.Group.Int.Defs
import TaintSeed.Proofs.Collection.Table
import TaintSeed.Proofs.View.WellFormed
import TaintSeed.View.Algorithms

/-!
# The Ways to Ask a View for Its Edges Agree

A view answers in two ways: to one who wants lists of nodes to walk through,
and to one who hands over a function that is called with the successors of a
number. Behind the answers stand the same edges, but they are read from
different tables, in one case from the edges turned around and in another only
if the number has a node. In a derived view none of this can be noticed.

`Coherent` says it in full: the tables agree with the list of numbers, the
turned edges are the transpose, the numbers lie below the order of the whole
graph, and each way to ask for an edge gives the answer of the others. A list
of nodes is walked through with a cursor, so `Cursor.listed` takes the walk to
its end; a function that is called is one that records its calls.

## Main definitions

* `View.Coherent`: The tables of a view agree, and so do the ways to ask it.

## Theorems

* `View.Cursor.listed_start`: A walk from the start shows every number once.
* `View.visited_eq`: A function is called with the successors.
* `View.ncard_edges`: The size of a view is the number of its edges.
* `View.DerivedFrom.coherent`: Every derived view is coherent.
-/

namespace TaintSeed

namespace View

/-! ## Walking through a list -/

namespace Cursor

theorem listed_eq_drop (c : Cursor) : c.listed = c.ids.drop c.steps := by
  fun_induction listed c with
  | case1 c hnext ih =>
      by_cases hlt : c.steps < c.ids.length
      · rw [next_of_lt c hlt] at ih ⊢
        rw [ih, List.drop_eq_getElem_cons hlt]
        simp [current?, hlt]
      · rw [next_of_le c (Nat.le_of_not_lt hlt)] at hnext
        cases hnext
  | case2 c hnext =>
      by_cases hlt : c.steps < c.ids.length
      · rw [next_of_lt c hlt] at hnext
        exact absurd rfl hnext
      · exact (List.drop_eq_nil_of_le (Nat.le_of_not_lt hlt)).symm

/-- A walk from the start shows every number of the list, in order. -/
theorem listed_start (ids : List NodeId) : (start ids).listed = ids := listed_eq_drop _

end Cursor

/-! ## Calling a function -/

theorem walk_record (seen ids : List NodeId) :
    walk (fun seen y => (seen ++ [y], false)) seen ids = (seen ++ ids, false) := by
  induction ids generalizing seen with
  | nil => rw [List.append_nil]; rfl
  | cons y ids ih =>
      rw [walk]
      exact (ih (seen ++ [y])).trans (by rw [List.append_assoc, List.singleton_append])

/-- In a well-formed view a number without a node has no successors either. -/
theorem visited_eq (v : View) (hv : v.WellFormed) (x : NodeId) : v.visited x = v.succs x := by
  unfold visited visit
  split
  · rw [walk_record, List.nil_append]
  · rename_i hx
    have hkey : x ∉ v.keys := fun hc => hx ((hv.node x).1 hc)
    symm
    refine List.eq_nil_iff_forall_not_mem.2 (fun y hy => hkey ?_)
    exact hv.starts x y ((mem_succs_iff v x y).1 hy)

/-! ## Counting edges -/

/-- The size of a well-formed view is the number of its edges. -/
theorem ncard_edges (v : View) (hv : v.WellFormed) :
    {e : NodeId × NodeId | v.hasEdge e.1 e.2 = true}.Finite ∧
    {e : NodeId × NodeId | v.hasEdge e.1 e.2 = true}.ncard = v.size := by
  have hset : {e : NodeId × NodeId | v.hasEdge e.1 e.2 = true}
      = {e | ∃ s, v.edges.get? e.1 = some s ∧ e.2 ∈ s.toList} := by
    ext ⟨x, y⟩
    rw [Set.mem_ofPred_eq, Set.mem_ofPred_eq, hasEdge_iff]
    cases v.edges.get? x with
    | none => simp
    | some s => simp
  have hn : v.edges.keys.Nodup := hv.edges ▸ hv.nodup
  rw [hset]
  exact Table.ncard_rows v.edges (fun s => s.toList) hn (fun _ s _ => s.nodup)

/-! ## All of it -/

/-- The tables of a view of `g` agree, and so do the ways to ask for its edges. -/
structure Coherent (g : Graph) (v : View) : Prop where
  /-- The numbers are listed once each, in increasing order. -/
  sorted : v.keys.Pairwise (· < ·)
  /-- They are the numbers that have a node. -/
  nodes : ∀ x, x ∈ v.keys ↔ x ∈ v.nodes.keys
  /-- They are the numbers that have a set of successors, perhaps an empty one. -/
  edges : ∀ x, x ∈ v.keys ↔ x ∈ v.edges.keys
  /-- Edges join numbers of the view. -/
  ends : ∀ x y, v.hasEdge x y = true → x ∈ v.keys ∧ y ∈ v.keys
  /-- The turned edges are the transpose of the edges. -/
  transpose : ∀ x y, x ∈ (v.reverse.get? y).getD ∅ ↔ y ∈ (v.edges.get? x).getD ∅
  /-- The numbers lie between zero and the order. -/
  range : ∀ x ∈ v.keys, 0 ≤ x ∧ x < v.order
  /-- The order is that of the view of the whole graph. -/
  order : v.order = (ofGraph g).order
  /-- The walk through the successors of a number shows the ends of its edges. -/
  succs : ∀ x y, y ∈ (Cursor.start (v.succs x)).listed ↔ v.hasEdge x y = true
  /-- The walk through the predecessors of a number shows the beginnings of edges to it. -/
  preds : ∀ x y, x ∈ (Cursor.start (v.preds y)).listed ↔ v.hasEdge x y = true
  /-- A function is called with the ends of edges. -/
  visited : ∀ x y, y ∈ v.visited x ↔ v.hasEdge x y = true
  /-- Asking for the edge itself gives it. -/
  edge : ∀ x y, (v.edge? x y).isSome = true ↔ v.hasEdge x y = true
  /-- The edge goes from the node of the one number to the node of the other. -/
  endNodes : ∀ x y e, v.edge? x y = some e →
    (∃ a, v.node? e.1 = some a ∧ a.id? = some x) ∧ ∃ b, v.node? e.2 = some b ∧ b.id? = some y
  /-- No walk shows a number twice, and all show them in increasing order. -/
  increasing : ∀ x, (Cursor.start (v.succs x)).listed.Pairwise (· < ·) ∧
    (Cursor.start (v.preds x)).listed.Pairwise (· < ·) ∧ (v.visited x).Pairwise (· < ·)
  /-- The size is the number of pairs with an edge. -/
  size : {e : NodeId × NodeId | v.hasEdge e.1 e.2 = true}.Finite ∧
    {e : NodeId × NodeId | v.hasEdge e.1 e.2 = true}.ncard = v.size

/-- A number of a well-formed view has a node with that number. -/
theorem WellFormed.exists_node {v : View} (hv : v.WellFormed) (x : NodeId) (hx : x ∈ v.keys) :
    ∃ n, v.node? x = some n ∧ n.id? = some x := by
  rcases Option.isSome_iff_exists.1 ((hv.node x).1 hx) with ⟨n, hn⟩
  exact ⟨n, hn, hv.numbered x n hn⟩

theorem DerivedFrom.order_whole {g : Graph} {v : View} (hv : v.DerivedFrom g) :
    v.order = (ofGraph g).order := by
  induction hv with
  | whole _ _ => rfl
  | restrict ids _ ih => exact ih
  | induced keep _ ih => exact ih

/-- Every view that is made from a call graph by taking parts is coherent, whatever numbers or
    nodes were asked for on the way. -/
theorem DerivedFrom.coherent (g : Graph) (v : View) (hv : v.DerivedFrom g) : v.Coherent g := by
  have hw := hv.wellFormed
  have hends : ∀ x y, v.hasEdge x y = true → x ∈ v.keys ∧ y ∈ v.keys :=
    fun x y he => ⟨hw.starts x y he, hw.ends x y he⟩
  constructor
  case sorted => exact hw.sorted
  case nodes =>
    intro x
    rw [hw.node x, ← Table.contains_iff]
    rfl
  case edges =>
    intro x
    rw [hw.edges]
  case ends => exact hends
  case transpose =>
    intro x y
    have hreverse := hw.reverse x y
    rw [View.preds, mem_increasing, hasEdge_iff, DistinctList.mem_toList] at hreverse
    exact hreverse
  case range => exact hv.key_range
  case order => exact hv.order_whole
  case succs =>
    intro x y
    rw [Cursor.listed_start, mem_succs_iff]
  case preds =>
    intro x y
    rw [Cursor.listed_start, hw.reverse]
  case visited =>
    intro x y
    rw [visited_eq v hw, mem_succs_iff]
  case edge =>
    intro x y
    unfold edge?
    by_cases hedge : v.hasEdge x y = true
    · simp [hedge]
    · simp [hedge]
  case endNodes =>
    intro x y e he
    unfold edge? at he
    split at he
    · rename_i hedge
      cases he
      rcases hends x y hedge with ⟨hx, hy⟩
      exact ⟨hw.exists_node x hx, hw.exists_node y hy⟩
    · cases he
  case increasing =>
    intro x
    rw [Cursor.listed_start, Cursor.listed_start, visited_eq v hw]
    exact ⟨succs_pairwise v x, increasing_pairwise _ (DistinctList.nodup _), succs_pairwise v x⟩
  case size => exact ncard_edges v hw

/-- A part of the sample, asked for with numbers out of order, repeated and unknown, and of it the
    part without the synthetic method. -/
def callbackPart : View :=
  ((ofGraph .callback).restrict [3, 2, 7, 2, -1, 0]).induced (fun n => !n.isSynthetic)

/-- In that part one edge is left, and the walk through the predecessors of its end shows it. -/
theorem DerivedFrom.coherent_callback :
    callbackPart.DerivedFrom .callback ∧ callbackPart.keys = [0, 2] ∧ callbackPart.order = 4 ∧
    2 ∈ (Cursor.start (callbackPart.preds 0)).listed ∧ 0 ∈ callbackPart.visited 2 ∧
    {e : NodeId × NodeId | callbackPart.hasEdge e.1 e.2 = true}.ncard = 1 := by
  have hd : callbackPart.DerivedFrom .callback :=
    .induced _ (.restrict _ (.whole Graph.callback_built (by decide)))
  have hc := DerivedFrom.coherent .callback callbackPart hd
  have hkeys : callbackPart.keys = [0, 2] := by cbv
  have hedge : callbackPart.hasEdge 2 0 = true := by cbv
  have hsize : callbackPart.size = 1 := by cbv
  exact ⟨hd, hkeys, hc.order.trans rfl, (hc.preds 2 0).2 hedge, (hc.visited 2 0).2 hedge,
    hc.size.2.trans hsize⟩

end View

end TaintSeed
