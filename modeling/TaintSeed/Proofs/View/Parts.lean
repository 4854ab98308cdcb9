import Mathlib.Data.List.Lattice
import Mathlib.Data.List.Sort
import TaintSeed.Proofs.View.Agreement

/-!
# Parts of Parts

Taking a part goes through the wanted numbers, through the sorted list of those
that are there, and through the successors of each, and then turns the edges
around again. Each of these steps could ask the wrong table, and after two
parts have been taken the steps of the one stand on the tables of the other.

The numbers that were asked for show in a part only through the list of numbers
that it has. `on` is the part made from that list alone, and `restrict_eq_on`
says that a part is made that way. Two facts about `on` carry everything: a part
on fewer numbers may be taken from a part or from the view itself
(`on_on`), and a view that is derived from a call graph is the part of itself on
all its numbers (`DerivedFrom.on_keys`). What is left is to compare lists of
numbers, which are in order and so are equal if they have the same members.

The equations are between views, so the order, the list of numbers, the table
of nodes and the edges in both directions are the same on both sides.

## Main definitions

* `View.on`: The part on numbers that are in order.

## Theorems

* `View.restrict_eq_on`: The numbers asked for show in a part only through those that it has.
* `View.on_on`: A part of a part is a part.
* `View.DerivedFrom.on_keys`: A derived view is the part of itself on its numbers.
* `View.restrict_eq_iff`: Parts are equal when the same numbers of the view were wanted.
* `View.restrict_restrict`: A part of a part is the part on the numbers wanted twice.
* `View.induced_induced`: Of a part by a test, the part by another is the part by both.
* `View.DerivedFrom.parts_compose`: All laws of parts of a derived view.
-/

namespace TaintSeed

namespace View

/-! ## A part from its numbers -/

/-- The part of a view on numbers that are in order and that it has. -/
def on (v : View) (keys : List NodeId) : View :=
  let edges : Table NodeId (DistinctList NodeId) :=
    ⟨keys.map (fun x => (x, ((v.edges.get? x).getD ∅).filter (fun y => decide (y ∈ keys))))⟩
  { order := v.order
    keys := keys
    nodes := ⟨keys.filterMap (fun x => (v.nodes.get? x).map (fun n => (x, n)))⟩
    edges := edges
    reverse := turned edges }

theorem nodes_get?_on (v : View) (keys : List NodeId) (x : NodeId) :
    (v.on keys).nodes.get? x = if x ∈ keys then v.nodes.get? x else none :=
  Table.find?_filterMap (fun x => v.nodes.get? x) keys x

theorem edges_get?_on (v : View) (keys : List NodeId) (x : NodeId) :
    (v.on keys).edges.get? x = if x ∈ keys then
      some (((v.edges.get? x).getD ∅).filter (fun y => decide (y ∈ keys))) else none :=
  Table.find?_map _ keys x

theorem restrict_eq_on (v : View) (ids : List NodeId) :
    v.restrict ids = v.on (v.restrict ids).keys := by
  have hkept : (DistinctList.ofList (ids.filter v.nodes.contains)).contains
      = fun y => decide (y ∈ (v.restrict ids).keys) := by
    funext y
    exact decide_eq_decide.2 (mem_increasing _ y).symm
  unfold restrict at hkept ⊢
  simp only [hkept, on]

theorem on_congr (v w : View) (keys : List NodeId) (horder : v.order = w.order)
    (hnodes : ∀ x ∈ keys, v.nodes.get? x = w.nodes.get? x)
    (hedges : ∀ x ∈ keys,
      ((v.edges.get? x).getD ∅).filter (fun y => decide (y ∈ keys))
        = ((w.edges.get? x).getD ∅).filter (fun y => decide (y ∈ keys))) :
    v.on keys = w.on keys := by
  have hn : keys.filterMap (fun x => (v.nodes.get? x).map (fun n => (x, n)))
      = keys.filterMap (fun x => (w.nodes.get? x).map (fun n => (x, n))) :=
    List.filterMap_congr (fun x hx => by rw [hnodes x hx])
  have he : keys.map
        (fun x => (x, ((v.edges.get? x).getD ∅).filter (fun y => decide (y ∈ keys))))
      = keys.map
        (fun x => (x, ((w.edges.get? x).getD ∅).filter (fun y => decide (y ∈ keys)))) :=
    List.map_congr_left (fun x hx => by rw [hedges x hx])
  simp only [on, horder, hn, he]

theorem on_on (v : View) (keys fewer : List NodeId) (hsub : fewer ⊆ keys) :
    (v.on keys).on fewer = v.on fewer := by
  refine on_congr _ _ fewer rfl ?_ ?_
  · intro x hx
    rw [nodes_get?_on, if_pos (hsub hx)]
  · intro x hx
    rw [edges_get?_on, if_pos (hsub hx), Option.getD_some]
    -- A successor that is kept the second time was kept the first time.
    refine DistinctList.ext ?_
    simp only [DistinctList.filter, List.filter_filter]
    refine List.filter_congr (fun y _ => ?_)
    by_cases hy : y ∈ fewer
    · simp [hy, hsub hy]
    · simp [hy]

theorem ofGraph_on_keys {g : Graph} (hg : g.WellFormed) :
    (ofGraph g).on (ofGraph g).keys = ofGraph g := by
  have hw := ofGraph_wellFormed hg
  -- Both tables were filled in the order of the numbers, so listing them again changes nothing.
  have hnodeKeys : (ofGraph g).nodes.keys = (ofGraph g).keys := by
    rw [keys_ofGraph hg]
    exact Table.keys_foldl_set Node.id (fun n => n) g.nodes ∅ hg.nodup_id
  have hnodes : (ofGraph g).keys.filterMap
      (fun x => ((ofGraph g).nodes.get? x).map (fun n => (x, n))) = (ofGraph g).nodes.entries := by
    refine Table.filterMap_keys _ _ hnodeKeys hw.nodup _ (fun x n hn => ?_)
    rw [hn, Option.map_some]
  have hedges : (ofGraph g).keys.map (fun x => (x, (((ofGraph g).edges.get? x).getD ∅).filter
      (fun y => decide (y ∈ (ofGraph g).keys)))) = (ofGraph g).edges.entries := by
    rw [← List.filterMap_eq_map]
    refine Table.filterMap_keys _ _ hw.edges hw.nodup _ (fun x s hs => ?_)
    -- All successors are numbers of the view, so none is left out.
    have hall : s.filter (fun y => decide (y ∈ (ofGraph g).keys)) = s := by
      refine DistinctList.ext (List.filter_eq_self.2 (fun y hy => decide_eq_true ?_))
      refine hw.ends x y ((hasEdge_iff _ x y).2 ?_)
      rw [hs, Option.getD_some]
      exact hy
    simp only [Function.comp_apply, hs, Option.getD_some, hall]
  simp only [on, hnodes, hedges]
  rfl

theorem DerivedFrom.on_keys {g : Graph} {v : View} (hv : v.DerivedFrom g) : v.on v.keys = v := by
  -- Of a part nothing has to be known but that it was made from its numbers.
  have hpart : ∀ (w : View) (ids : List NodeId),
      (w.restrict ids).on (w.restrict ids).keys = w.restrict ids := by
    intro w ids
    nth_rewrite 1 [restrict_eq_on w ids]
    rw [on_on w _ _ (List.Subset.refl _), ← restrict_eq_on]
  cases hv with
  | whole built _ => exact ofGraph_on_keys (Graph.built_wellFormed g built)
  | restrict ids _ => exact hpart _ ids
  | induced keep _ => exact hpart _ _

/-! ## The laws of parts -/

section Laws

variable {v : View} (hv : v.WellFormed)
include hv

-- The numbers of a part are in order, so their members decide which list they are.
theorem restrict_eq_on_of_mem_iff (ids keys : List NodeId) (hsorted : keys.Pairwise (· < ·))
    (hmem : ∀ x, x ∈ keys ↔ x ∈ ids ∧ x ∈ v.keys) : v.restrict ids = v.on keys := by
  have hkeys : (v.restrict ids).keys = keys := by
    refine (keys_restrict_pairwise ids).eq_of_mem_iff hsorted (fun x => ?_)
    rw [mem_keys_restrict ids hv, hmem]
  rw [restrict_eq_on, hkeys]

theorem restrict_eq_iff (a b : List NodeId) :
    v.restrict a = v.restrict b ↔ ∀ x ∈ v.keys, x ∈ a ↔ x ∈ b := by
  constructor
  · intro heq x hx
    have hmem : x ∈ (v.restrict a).keys ↔ x ∈ (v.restrict b).keys := by rw [heq]
    rw [mem_keys_restrict a hv, mem_keys_restrict b hv] at hmem
    simpa [hx] using hmem
  · intro hiff
    rw [restrict_eq_on v b]
    refine restrict_eq_on_of_mem_iff hv a _ (keys_restrict_pairwise b) (fun x => ?_)
    rw [mem_keys_restrict b hv]
    exact and_congr_left (fun hx => (hiff x hx).symm)

theorem restrict_restrict (a b : List NodeId) :
    (v.restrict a).restrict b = v.restrict (a ∩ b) := by
  have hkeys : ∀ x, x ∈ (v.restrict (a ∩ b)).keys ↔ x ∈ b ∧ x ∈ (v.restrict a).keys := by
    intro x
    rw [mem_keys_restrict _ hv, mem_keys_restrict a hv, List.mem_inter_iff]
    tauto
  have hsub : (v.restrict (a ∩ b)).keys ⊆ (v.restrict a).keys := fun x hx => ((hkeys x).1 hx).2
  calc (v.restrict a).restrict b
      = (v.restrict a).on (v.restrict (a ∩ b)).keys :=
        restrict_eq_on_of_mem_iff (restrict_wellFormed a hv) b _ (keys_restrict_pairwise _) hkeys
    _ = (v.on (v.restrict a).keys).on (v.restrict (a ∩ b)).keys := by rw [← restrict_eq_on v a]
    _ = v.on (v.restrict (a ∩ b)).keys := on_on v _ _ hsub
    _ = v.restrict (a ∩ b) := (restrict_eq_on v _).symm

theorem induced_induced (p q : Node → Bool) :
    (v.induced p).induced q = v.induced (fun n => p n && q n) := by
  -- Both sides are parts of `v`, and it remains to compare the numbers that are wanted.
  refine (restrict_restrict hv _ _).trans ((restrict_eq_iff hv _ _).2 (fun x hx => ?_))
  have hfirst : x ∈ (v.induced p).keys ↔ (v.node? x).any p = true := by
    rw [mem_keys_induced hv, Option.any_eq_true]
  -- The second test is made on the nodes of the part, where only those are found that passed.
  have hnode : (v.induced p).nodes.get? x = if x ∈ (v.induced p).keys then v.node? x else none :=
    node?_restrict _ x
  have hsecond : ((v.induced p).nodes.get? x).any q = true ↔
      x ∈ (v.induced p).keys ∧ (v.node? x).any q = true := by
    by_cases hk : x ∈ (v.induced p).keys
    · rw [hnode, if_pos hk, and_iff_right hk]
    · simp [hnode, hk]
  rcases hv.exists_node x hx with ⟨n, hn, _⟩
  have hget : v.nodes.get? x = some n := hn
  rw [List.mem_inter_iff, List.mem_filter, List.mem_filter, List.mem_filter, hsecond, hfirst, hn,
    hget]
  simp [hx]

end Laws

/-- Parts of a view that is made from a call graph compose. The part of a part is the part on the
    numbers that were wanted both times, whatever their order and however often they were named;
    parts are equal just when the same numbers of the view were wanted; the part of a part on nodes
    that pass a test is the part on the nodes that pass both; and the part on all numbers is the
    view. -/
theorem DerivedFrom.parts_compose (g : Graph) (v : View) (hv : v.DerivedFrom g) :
    (∀ a b : List NodeId, (v.restrict a).restrict b = v.restrict (a ∩ b)) ∧
    (∀ a b : List NodeId, v.restrict a = v.restrict b ↔ ∀ x ∈ v.keys, x ∈ a ↔ x ∈ b) ∧
    (∀ p q : Node → Bool, (v.induced p).induced q = v.induced (fun n => p n && q n)) ∧
    v.restrict v.keys = v := by
  have hw := hv.wellFormed
  have hall : v.restrict v.keys = v.on v.keys :=
    restrict_eq_on_of_mem_iff hw v.keys v.keys hw.sorted (fun x => (and_self_iff).symm)
  exact ⟨restrict_restrict hw, restrict_eq_iff hw, induced_induced hw, hall.trans hv.on_keys⟩

/-- Of the sample, two numbers are wanted twice among repeated and unknown ones. The same part is
    cut out by asking for the two alone. -/
theorem DerivedFrom.parts_compose_callback :
    (ofGraph .callback).DerivedFrom .callback ∧
    ((ofGraph .callback).restrict [3, 2, 7, 2, -1, 0]).restrict [2, 9, 0, 0, 1]
      = (ofGraph .callback).restrict [0, 2] ∧
    (ofGraph .callback).restrict [0, 2] ≠ ofGraph .callback := by
  have hv : (ofGraph .callback).DerivedFrom .callback :=
    .whole Graph.callback_built (by decide)
  rcases DerivedFrom.parts_compose .callback _ hv with ⟨hparts, heq, _, hall⟩
  have hkeys : (ofGraph .callback).keys = [0, 1, 2, 3] :=
    keys_ofGraph (Graph.built_wellFormed _ Graph.callback_built)
  refine ⟨hv, (hparts _ _).trans ((heq _ _).2 ?_), ?_⟩
  · rw [hkeys]
    decide
  · intro hsame
    have hiff := (heq _ _).1 (hsame.trans hall.symm) 1
    rw [hkeys] at hiff
    exact absurd hiff (by decide)

end View

end TaintSeed
