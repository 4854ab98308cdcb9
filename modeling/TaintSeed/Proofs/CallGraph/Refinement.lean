import Mathlib.Data.Set.List
import TaintSeed.CallGraph.Indexed
import TaintSeed.Proofs.CallGraph.History

/-!
# The Indexes Answer as One Graph

An `IndexedGraph` keeps five indexes, and each operation has to touch the right
ones. A `Graph` has one list of nodes and one list of edges, so nothing in it
can get out of step. This module shows that the two cannot be told apart: the
same actions lead to an indexed graph and to a graph that give the same
answers.

The relation between them cannot compare lists. The graph remembers in which
order edges were drawn and the indexes do not, so `Refines` says of every index
what a look-up finds there. The index of numbers is the delicate one: a node
that was turned down reads as number zero, and what is found under zero is
another node.

Lists are compared at the end only, where they are sorted by number: two lists
that increase and have the same members are one list.

## Main definitions

* `IndexedGraph.act`, `IndexedGraph.run`: What actions do to an indexed graph.
* `IndexedGraph.Refines`: Every index says what the ledger says.

## Theorems

* `IndexedGraph.Refines.holds_iff`: The identity of a node is told by its handle.
* `IndexedGraph.act_refines`: An action keeps the indexes in step.
* `IndexedGraph.run_refines`: So does every history.
* `IndexedGraph.Refines.collect_eq`: What is collected has no gap and is sorted.
* `IndexedGraph.answers_run`: Every history leads to the same answers.
-/

namespace TaintSeed

/-- Sorting by a number that tells the members apart makes the numbers increase. -/
theorem pairwise_mergeSort_number {α : Type} (number : α → NodeId) (xs : List α)
    (hn : (xs.map number).Nodup) :
    ((xs.mergeSort (fun a b => decide (number a ≤ number b))).map number).Pairwise (· < ·) := by
  have hle : (xs.mergeSort (fun a b => decide (number a ≤ number b))).Pairwise
      (fun a b => decide (number a ≤ number b) = true) := by
    refine List.pairwise_mergeSort ?_ ?_ xs
    · intro a b c hab hbc
      rw [decide_eq_true_iff] at hab hbc ⊢
      exact le_trans hab hbc
    · intro a b
      simpa using le_total (number a) (number b)
  have hne : ((xs.mergeSort (fun a b => decide (number a ≤ number b))).map number).Nodup :=
    ((List.mergeSort_perm xs _).map number).nodup_iff.2 hn
  refine List.pairwise_map.2 ((hle.and (List.pairwise_map.1 hne)).imp ?_)
  rintro a b ⟨hab, hab'⟩
  exact lt_of_le_of_ne (of_decide_eq_true hab) hab'

/-- Two lists that increase by number and have the same members are equal. -/
theorem eq_of_pairwise_number {α : Type} (number : α → NodeId) (xs ys : List α)
    (hx : (xs.map number).Pairwise (· < ·)) (hy : (ys.map number).Pairwise (· < ·))
    (hmem : ∀ a, a ∈ xs ↔ a ∈ ys) : xs = ys := by
  have hne : ∀ zs : List α, (zs.map number).Pairwise (· < ·) → zs.Nodup := fun zs hz =>
    List.Nodup.of_map number (hz.imp Int.ne_of_lt)
  have hperm : xs.Perm ys := (List.perm_ext_iff_of_nodup (hne xs hx) (hne ys hy)).2 hmem
  exact hperm.eq_of_pairwise (fun a b _ _ hab hba => absurd hba (lt_asymm hab))
    (List.pairwise_map.1 hx) (List.pairwise_map.1 hy)

namespace IndexedGraph

/-- The graph after an action. An action on a handle without a node does nothing. -/
def act (g : IndexedGraph) : Graph.Action → IndexedGraph
  | .offer n => ((g.make n).add g.made.length).1
  | .offerAgain i => if i < g.made.length then (g.add i).1 else g
  | .connect i j => if i < g.made.length ∧ j < g.made.length then (g.connect i j).2 else g
  | .addRoot i => if i < g.made.length then g.addRoot i else g
  | .setEntries i blocks => if i < g.made.length then g.setEntries i blocks else g

/-- The graph after a sequence of actions on the empty one. -/
def run (acts : List Graph.Action) : IndexedGraph := acts.foldl act .empty

theorem run_concat (acts : List Graph.Action) (x : Graph.Action) :
    run (acts ++ [x]) = (run acts).act x :=
  List.foldl_append

/-- Every index of the graph says what the ledger says. -/
structure Refines (g : IndexedGraph) (w : Graph.Ledger) : Prop where
  /-- The nodes that were made are those that were offered. -/
  made : g.made = w.offered
  /-- The next number is the number of nodes. -/
  next : g.next = (w.graph.size : NodeId)
  /-- No number is indexed twice. -/
  nodup : g.byNumber.keys.Nodup
  /-- A number leads to the node that has it. -/
  byNumber : ∀ x h, g.byNumber.get? x = some h ↔ ∃ n, w.offered[h]? = some n ∧ n.id? = some x
  /-- A method in a context leads to the node that was accepted for it. -/
  byKey : ∀ method context h, g.byKey.get? (method, context) = some h ↔
    ∃ n, w.offered[h]? = some n ∧ n.id?.isSome = true ∧ n.method = method ∧ n.context = context
  /-- Every node has its row of callees and its row of callers, and there are no other rows. -/
  rows : ∀ x, g.callees.contains x = g.byNumber.contains x ∧
    g.callers.contains x = g.byNumber.contains x
  /-- The rows of callees hold the edges. -/
  callees : ∀ x y, y ∈ (g.callees.get? x).getD ∅ ↔ (x, y) ∈ w.graph.edges
  /-- The rows of callers hold the same edges. -/
  callers : ∀ x y, x ∈ (g.callers.get? y).getD ∅ ↔ (x, y) ∈ w.graph.edges
  /-- The entries are the same. -/
  entries : g.entries = w.graph.entries
  /-- So are the roots. -/
  roots : g.roots.map (fun h => w.offered[h]?) = w.graph.roots.map some

namespace Refines

variable {g : IndexedGraph} {w : Graph.Ledger}

theorem node_eq (hr : g.Refines w) (h : Nat) (n : Node) (hn : w.offered[h]? = some n) :
    g.node h = n := by
  rw [node, hr.made, List.getD_eq_getElem?_getD, hn, Option.getD_some]

theorem exists_node (hr : g.Refines w) (h : Nat) (hh : h < g.made.length) :
    w.offered[h]? = some (g.node h) := by
  rw [hr.made] at hh
  rw [hr.node_eq h _ (List.getElem?_eq_getElem hh), List.getElem?_eq_getElem hh]

theorem getElem?_eq_none (hr : g.Refines w) (h : Nat) (hh : ¬ h < g.made.length) :
    w.offered[h]? = none := by
  rw [hr.made] at hh
  exact List.getElem?_eq_none (Nat.le_of_not_lt hh)

theorem number_eq (hr : g.Refines w) (h : Nat) (x : NodeId) (hx : g.byNumber.get? x = some h) :
    g.number h = x := by
  rcases (hr.byNumber x h).1 hx with ⟨n, hn, hid⟩
  rw [number, hr.node_eq h n hn, Node.id, hid, Option.getD_some]

/-- The graph holds a node that was offered if it was accepted. A duplicate is looked for under
    zero, where the index has the handle of another node. -/
theorem holds_iff (hr : g.Refines w) (hw : w.Consistent) (h : Nat) (n : Node)
    (hn : w.offered[h]? = some n) : g.holds h = true ↔ n ∈ w.graph.nodes := by
  rw [holds, beq_iff_eq, hr.byNumber, number, hr.node_eq h n hn]
  constructor
  · rintro ⟨m, hm, hid⟩
    rw [hn, Option.some.injEq] at hm
    rw [hw.nodes, List.mem_filter, hm, hid]
    exact ⟨List.mem_of_getElem? (hm ▸ hn), rfl⟩
  · intro hmem
    exact ⟨n, hn, (Graph.built_wellFormed _ hw.built).id?_eq n hmem⟩

theorem get?_byKey_eq_none (hr : g.Refines w) (hw : w.Consistent) (n : Node) :
    g.byKey.get? (n.method, n.context) = none ↔ ∀ m ∈ w.graph.nodes, ¬ Graph.SameKey m n := by
  constructor
  · intro hnone m hm hkey
    rw [hw.nodes, List.mem_filter] at hm
    rcases List.getElem?_of_mem hm.1 with ⟨i, hi⟩
    rw [(hr.byKey n.method n.context i).2 ⟨m, hi, hm.2, hkey⟩] at hnone
    cases hnone
  · intro hnew
    cases hget : g.byKey.get? (n.method, n.context) with
    | none => rfl
    | some h =>
        rcases (hr.byKey n.method n.context h).1 hget with ⟨m, hm, hsome, hkey⟩
        have hmem : m ∈ w.graph.nodes := by
          rw [hw.nodes]
          exact List.mem_filter.2 ⟨List.mem_of_getElem? hm, hsome⟩
        exact absurd hkey (hnew m hmem)

end Refines

/-! ## One action -/

theorem empty_refines : Refines .empty ⟨.empty, []⟩ where
  made := rfl
  next := rfl
  nodup := List.nodup_nil
  byNumber := fun x h => by simp [empty]
  byKey := fun method context h => by simp [empty]
  rows := fun x => ⟨rfl, rfl⟩
  callees := fun x y => by simp [empty, Graph.empty]
  callers := fun x y => by simp [empty, Graph.empty]
  entries := rfl
  roots := rfl

theorem getElem?_concat_iff (ns : List Node) (last m : Node) (h : Nat) :
    (ns ++ [last])[h]? = some m ↔ ns[h]? = some m ∨ h = ns.length ∧ last = m := by
  rcases Nat.lt_trichotomy h ns.length with hlt | rfl | hgt
  · rw [List.getElem?_append_left hlt]
    exact ⟨Or.inl, fun hc => hc.resolve_right (fun hx => absurd hx.1 (Nat.ne_of_lt hlt))⟩
  · simp
  · have hlen : (ns ++ [last]).length ≤ h := by
      rw [List.length_append, List.length_singleton]
      exact hgt
    rw [List.getElem?_eq_none hlen, List.getElem?_eq_none (Nat.le_of_lt hgt)]
    constructor
    · intro hc
      cases hc
    · rintro (hc | ⟨rfl, _⟩)
      · cases hc
      · exact absurd hgt (Nat.lt_irrefl _)

theorem keyOf_make (g : IndexedGraph) (n : Node) :
    (g.make n).keyOf g.made.length = (n.method, n.context) := by
  simp [keyOf, node, make]

section Step

variable {g : IndexedGraph} {w : Graph.Ledger}

-- A root is an offered node, so what it refers to stays when another one is offered.
theorem Refines.roots_concat (hr : g.Refines w) (last : Node) :
    g.roots.map (fun h => (w.offered ++ [last])[h]?) = w.graph.roots.map some := by
  rw [← hr.roots]
  refine List.map_congr_left (fun h hh => ?_)
  have hmem : w.offered[h]? ∈ w.graph.roots.map some := by
    rw [← hr.roots]
    exact List.mem_map_of_mem hh
  rcases List.mem_map.1 hmem with ⟨n, _, hn⟩
  rw [← hn]
  exact (getElem?_concat_iff w.offered last n h).2 (Or.inl hn.symm)

/-- A duplicate is only made: it has no number, so no index leads to it. -/
theorem Refines.turnDown (hr : g.Refines w) (n : Node) :
    (g.make n).Refines ⟨w.graph, w.offered ++ [n.unplaced]⟩ := by
  have hget : ∀ (h : Nat) (m : Node), m.id?.isSome = true →
      (w.offered[h]? = some m ↔ (w.offered ++ [n.unplaced])[h]? = some m) := by
    intro h m hm
    rw [getElem?_concat_iff]
    refine ⟨Or.inl, fun hc => hc.resolve_right ?_⟩
    rintro ⟨_, rfl⟩
    cases hm
  constructor
  case made => simp [make, hr.made, Node.unplaced]
  case next => exact hr.next
  case nodup => exact hr.nodup
  case byNumber =>
    intro x h
    refine (hr.byNumber x h).trans (exists_congr (fun m => and_congr_left (fun hid => ?_)))
    exact hget h m (by rw [hid]; rfl)
  case byKey =>
    intro method context h
    refine (hr.byKey method context h).trans (exists_congr (fun m => and_congr_left (fun hid => ?_)))
    exact hget h m hid.1
  case rows => exact hr.rows
  case callees => exact hr.callees
  case callers => exact hr.callers
  case entries => exact hr.entries
  case roots => exact hr.roots_concat n.unplaced

/-- No edge is at the next number. -/
theorem Refines.not_mem_edges (hr : g.Refines w) (hw : w.Consistent) (x : NodeId) :
    (g.next, x) ∉ w.graph.edges ∧ (x, g.next) ∉ w.graph.edges := by
  have hformed := Graph.built_wellFormed _ hw.built
  rw [hr.next]
  constructor
  · intro he
    rcases hformed.caller _ he with ⟨n, hn, hid⟩
    exact absurd hid (Int.ne_of_lt (hformed.id_range n hn).2)
  · intro he
    rcases hformed.callee _ he with ⟨n, hn, hid⟩
    exact absurd hid (Int.ne_of_lt (hformed.id_range n hn).2)

theorem Refines.number_lt (hr : g.Refines w) (hw : w.Consistent) (h : Nat) (n : Node) (x : NodeId)
    (hn : w.offered[h]? = some n) (hid : n.id? = some x) : x < g.next := by
  have hmem : n ∈ w.graph.nodes := by
    rw [hw.nodes, List.mem_filter, hid]
    exact ⟨List.mem_of_getElem? hn, rfl⟩
  have hx : n.id = x := by rw [Node.id, hid, Option.getD_some]
  rw [hr.next, ← hx]
  exact ((Graph.built_wellFormed _ hw.built).id_range n hmem).2

theorem mem_set_empty (t : Table NodeId (DistinctList NodeId)) (k x y : NodeId) :
    y ∈ ((t.set k ∅).get? x).getD ∅ ↔ k ≠ x ∧ y ∈ (t.get? x).getD ∅ := by
  rw [Table.get?_set]
  by_cases hx : k = x
  · rw [if_pos hx, Option.getD_some]
    exact iff_of_false (DistinctList.not_mem_empty y) (fun hc => hc.1 hx)
  · rw [if_neg hx]
    exact (and_iff_right hx).symm

/-- What adding a node that is new does to the indexes. -/
theorem Refines.make_add_fst (hr : g.Refines w) (n : Node)
    (hkey : g.byKey.get? (n.method, n.context) = none) :
    ((g.make n).add g.made.length).1 =
      { g with
        made := w.offered ++ [{ n with id? := some (w.graph.size : NodeId) }]
        next := g.next + 1
        byNumber := g.byNumber.set g.next g.made.length
        byKey := g.byKey.set (n.method, n.context) g.made.length
        callees := g.callees.set g.next ∅
        callers := g.callers.set g.next ∅ } := by
  have hnode : (g.make n).node g.made.length = n.unplaced := by simp [node, make, Node.unplaced]
  have hnone : (g.make n).byKey.get? ((g.make n).keyOf g.made.length) = none := by
    rw [keyOf_make]
    exact hkey
  rw [add, hnone]
  simp only [hnode, keyOf_make]
  simp [make, hr.made, hr.next, Node.unplaced]

theorem Refines.get?_byNumber_set (hr : g.Refines w) (hw : w.Consistent) (n : Node) (x : NodeId)
    (h : Nat) :
    (g.byNumber.set g.next g.made.length).get? x = some h ↔
      ∃ m, (w.offered ++ [{ n with id? := some (w.graph.size : NodeId) }])[h]? = some m ∧
        m.id? = some x := by
  simp only [Table.get?_set, getElem?_concat_iff]
  by_cases hx : g.next = x
  · rw [if_pos hx, Option.some.injEq, hr.made]
    constructor
    · rintro rfl
      exact ⟨_, Or.inr ⟨rfl, rfl⟩, by rw [← hx, hr.next]⟩
    · rintro ⟨m, hm | ⟨rfl, _⟩, hid⟩
      · exact absurd hx.symm (Int.ne_of_lt (hr.number_lt hw h m x hm hid))
      · rfl
  · rw [if_neg hx, hr.byNumber]
    refine exists_congr (fun m => and_congr_left (fun hid => ⟨Or.inl, fun hm => hm.resolve_right ?_⟩))
    rintro ⟨_, rfl⟩
    rw [Option.some.injEq, ← hr.next] at hid
    exact hx hid

theorem Refines.get?_byKey_set (hr : g.Refines w) (n : Node)
    (hkey : g.byKey.get? (n.method, n.context) = none) (method : MethodRef) (context : String)
    (h : Nat) :
    (g.byKey.set (n.method, n.context) g.made.length).get? (method, context) = some h ↔
      ∃ m, (w.offered ++ [{ n with id? := some (w.graph.size : NodeId) }])[h]? = some m ∧
        m.id?.isSome = true ∧ m.method = method ∧ m.context = context := by
  simp only [Table.get?_set, getElem?_concat_iff, Prod.mk.injEq]
  by_cases hk : n.method = method ∧ n.context = context
  · rw [if_pos hk, Option.some.injEq, hr.made]
    constructor
    · rintro rfl
      exact ⟨_, Or.inr ⟨rfl, rfl⟩, rfl, hk⟩
    · rintro ⟨m, hm | ⟨rfl, _⟩, hsome, hkey'⟩
      · -- A node that was accepted before would have the key of the new one.
        have hthere : g.byKey.get? (n.method, n.context) = some h := by
          rw [hk.1, hk.2]
          exact (hr.byKey method context h).2 ⟨m, hm, hsome, hkey'⟩
        rw [hkey] at hthere
        cases hthere
      · rfl
  · rw [if_neg hk, hr.byKey]
    refine exists_congr (fun m => and_congr_left (fun hm => ⟨Or.inl, fun hc => hc.resolve_right ?_⟩))
    rintro ⟨_, rfl⟩
    exact hk hm.2

/-- An accepted node gets the next number, under which nothing was indexed. -/
theorem Refines.accept (hr : g.Refines w) (hw : w.Consistent) (n : Node)
    (hnew : ∀ m ∈ w.graph.nodes, ¬ Graph.SameKey m n) :
    ((g.make n).add g.made.length).1.Refines
      ⟨{ w.graph with nodes := w.graph.nodes ++ [{ n with id? := some (w.graph.size : NodeId) }] },
        w.offered ++ [{ n with id? := some (w.graph.size : NodeId) }]⟩ := by
  have hkey : g.byKey.get? (n.method, n.context) = none := (hr.get?_byKey_eq_none hw n).2 hnew
  rw [hr.make_add_fst n hkey]
  constructor
  case made => rfl
  case next => simp [Graph.size, hr.next]
  case nodup => exact Table.nodup_keys_modify _ _ _ _ hr.nodup
  case byNumber => exact hr.get?_byNumber_set hw n
  case byKey => exact hr.get?_byKey_set n hkey
  case rows =>
    intro x
    simp only [Table.contains, Table.get?_set]
    by_cases hx : g.next = x
    · simp [hx]
    · simp only [if_neg hx]
      exact hr.rows x
  case callees =>
    -- The rows of the new node are empty, and no edge was at its number.
    intro x y
    rw [mem_set_empty, hr.callees]
    exact and_iff_right_of_imp (fun he hx => (hr.not_mem_edges hw y).1 (hx ▸ he))
  case callers =>
    intro x y
    rw [mem_set_empty, hr.callers]
    exact and_iff_right_of_imp (fun he hy => (hr.not_mem_edges hw x).2 (hy ▸ he))
  case entries => exact hr.entries
  case roots => exact hr.roots_concat _

theorem Refines.offer (hr : g.Refines w) (hw : w.Consistent) (n : Node) :
    (g.act (.offer n)).Refines (w.act (.offer n)) := by
  have heff := Graph.Ledger.offer_effect w n
  generalize w.act (.offer n) = w' at heff
  cases heff with
  | accepted _ new => exact hr.accept hw n new
  | turnedDown _ there mem key =>
      -- The key is indexed, so the graph gives the node that is there and stays as it is.
      have hsome : (g.make n).byKey.get? ((g.make n).keyOf g.made.length) ≠ none := by
        rw [keyOf_make]
        exact fun hnone => (hr.get?_byKey_eq_none hw n).1 hnone there mem key
      have hadd : ((g.make n).add g.made.length).1 = g.make n := by
        unfold add
        split
        · rfl
        · rename_i hnone
          exact absurd hnone hsome
      rw [act, hadd]
      exact hr.turnDown n
  | neither _ _ offer => cases offer

/-- A node that was made has its key in the index, since its offer. -/
theorem Refines.add_eq (hr : g.Refines w) (hw : w.Consistent) (h : Nat) (hh : h < g.made.length) :
    ∃ there, g.byKey.get? (g.keyOf h) = some there ∧ g.add h = (g, there) := by
  have hn := hr.exists_node h hh
  cases hget : g.byKey.get? (g.keyOf h) with
  | none =>
      rcases hw.known _ (List.mem_of_getElem? hn) with ⟨there, hmem, hkey⟩
      exact absurd hkey ((hr.get?_byKey_eq_none hw (g.node h)).1 hget there hmem)
  | some there => exact ⟨there, rfl, by simp only [add, hget]⟩

-- The rows are there already: drawing an edge adds none.
theorem contains_modify (t : Table NodeId (DistinctList NodeId)) (k : NodeId)
    (f : DistinctList NodeId → DistinctList NodeId) (hk : t.contains k = true) (x : NodeId) :
    (t.modify k ∅ f).contains x = t.contains x := by
  simp only [Table.contains, Table.get?_modify] at hk ⊢
  by_cases hx : k = x
  · subst hx
    rw [if_pos rfl, hk, Option.isSome_some]
  · rw [if_neg hx]

theorem mem_modify_insert (t : Table NodeId (DistinctList NodeId)) (k a x y : NodeId) :
    y ∈ ((t.modify k ∅ (·.insert a)).get? x).getD ∅ ↔
      y ∈ (t.get? x).getD ∅ ∨ x = k ∧ y = a := by
  rw [Table.get?_modify]
  by_cases hx : k = x
  · subst hx
    simp
  · rw [if_neg hx]
    simp [Ne.symm hx]

/-- An edge between two nodes of the graph goes into both indexes. -/
theorem Refines.draw (hr : g.Refines w) (i j : Nat) (hi : g.holds i = true)
    (hj : g.holds j = true) :
    (g.connect i j).2.Refines
      ⟨{ w.graph with edges := w.graph.edges.insert (g.number i, g.number j) }, w.offered⟩ := by
  have hrow : ∀ h, g.holds h = true → g.byNumber.contains (g.number h) = true := by
    intro h hh
    rw [Table.contains, beq_iff_eq.1 hh, Option.isSome_some]
  have hi' : g.callees.contains (g.number i) = true := (hr.rows _).1.trans (hrow i hi)
  have hj' : g.callers.contains (g.number j) = true := (hr.rows _).2.trans (hrow j hj)
  rw [connect, if_pos (Bool.and_eq_true_iff.2 ⟨hi, hj⟩)]
  constructor
  case made => exact hr.made
  case next => exact hr.next
  case nodup => exact hr.nodup
  case byNumber => exact hr.byNumber
  case byKey => exact hr.byKey
  case rows =>
    intro x
    simp only [contains_modify _ _ _ hi', contains_modify _ _ _ hj']
    exact hr.rows x
  case callees =>
    intro x y
    simp only [mem_modify_insert, hr.callees, DistinctList.mem_insert, Prod.mk.injEq]
  case callers =>
    intro x y
    simp only [mem_modify_insert, hr.callers, DistinctList.mem_insert, Prod.mk.injEq]
    rw [and_comm]
  case entries => exact hr.entries
  case roots => exact hr.roots

theorem Refines.connect_act (hr : g.Refines w) (hw : w.Consistent) (i j : Nat) :
    (g.act (.connect i j)).Refines (w.act (.connect i j)) := by
  have heff := Graph.Ledger.connect_effect w hw i j
  generalize w.act (.connect i j) = w' at heff
  cases heff with
  | drawn _ _ a b caller callee mem =>
      have hlt : i < g.made.length ∧ j < g.made.length := by
        rw [hr.made]
        exact ⟨(List.getElem?_eq_some_iff.1 caller).1, (List.getElem?_eq_some_iff.1 callee).1⟩
      have hi := (hr.holds_iff hw i a caller).2 mem.1
      have hj := (hr.holds_iff hw j b callee).2 mem.2
      have hdraw := hr.draw i j hi hj
      rw [number, number, hr.node_eq i a caller, hr.node_eq j b callee] at hdraw
      rw [act, if_pos hlt]
      exact hdraw
  | refused _ _ missing =>
      rw [act]
      split
      · rename_i hlt
        have hboth : ¬ (g.holds i && g.holds j) = true := by
          rw [Bool.and_eq_true, hr.holds_iff hw i _ (hr.exists_node i hlt.1),
            hr.holds_iff hw j _ (hr.exists_node j hlt.2)]
          exact missing _ _ (hr.exists_node i hlt.1) (hr.exists_node j hlt.2)
        rw [connect, if_neg hboth]
        exact hr
      · exact hr
  | neither _ _ _ connect => exact absurd rfl (connect i j)

/-- An action keeps the indexes in step with the ledger. -/
theorem act_refines (hr : g.Refines w) (hw : w.Consistent) (x : Graph.Action) :
    (g.act x).Refines (w.act x) := by
  cases x with
  | offer n => exact hr.offer hw n
  | offerAgain i =>
      rw [Graph.Ledger.offerAgain_eq w hw i, act]
      split
      · rename_i hi
        rcases hr.add_eq hw i hi with ⟨_, _, hadd⟩
        rw [hadd]
        exact hr
      · exact hr
  | connect i j => exact hr.connect_act hw i j
  | addRoot i =>
      by_cases hi : i < g.made.length
      · simp only [act, if_pos hi, Graph.Ledger.act, hr.exists_node i hi]
        refine { hr with roots := ?_ }
        simp [addRoot, Graph.addRoot, hr.roots, hr.exists_node i hi]
      · simp only [act, if_neg hi, Graph.Ledger.act, hr.getElem?_eq_none i hi]
        exact hr
  | setEntries i blocks =>
      by_cases hi : i < g.made.length
      · simp only [act, if_pos hi, Graph.Ledger.act, hr.exists_node i hi]
        refine { hr with entries := ?_ }
        simp [setEntries, Graph.setEntries, hr.entries, number]
      · simp only [act, if_neg hi, Graph.Ledger.act, hr.getElem?_eq_none i hi]
        exact hr

end Step

/-- Every history keeps the indexes in step, by induction on the actions. -/
theorem run_refines (acts : List Graph.Action) : (run acts).Refines (Graph.run acts) := by
  induction acts using List.reverseRecOn with
  | nil => exact empty_refines
  | append_singleton acts x ih =>
      rw [run_concat, Graph.run_concat]
      exact act_refines ih (Graph.run_consistent acts) x

/-! ## The answers -/

namespace Refines

variable {g : IndexedGraph} {w : Graph.Ledger}

theorem mem_nodes_iff (hr : g.Refines w) (h : Nat) :
    h ∈ g.nodes ↔ ∃ n, w.offered[h]? = some n ∧ n.id?.isSome = true := by
  rw [nodes, List.mem_mergeSort, List.mem_map]
  constructor
  · rintro ⟨⟨x, k⟩, hmem, rfl⟩
    rcases (hr.byNumber x k).1 ((Table.get?_eq_some_iff _ hr.nodup x k).2 hmem) with ⟨n, hn, hid⟩
    exact ⟨n, hn, by rw [hid]; rfl⟩
  · rintro ⟨n, hn, hsome⟩
    rcases Option.isSome_iff_exists.1 hsome with ⟨x, hid⟩
    exact ⟨(x, h), (Table.get?_eq_some_iff _ hr.nodup x h).1 ((hr.byNumber x h).2 ⟨n, hn, hid⟩), rfl⟩

/-- The nodes increase by number. -/
theorem nodes_pairwise (hr : g.Refines w) : (g.nodes.map g.number).Pairwise (· < ·) := by
  refine pairwise_mergeSort_number g.number _ ?_
  -- The numbers of the indexed nodes are the keys of the index.
  have hkeys : (g.byNumber.entries.map Prod.snd).map g.number = g.byNumber.keys := by
    rw [Table.keys, List.map_map]
    refine List.map_congr_left (fun e he => ?_)
    exact hr.number_eq e.2 e.1 ((Table.get?_eq_some_iff _ hr.nodup e.1 e.2).2 he)
  rw [hkeys]
  exact hr.nodup

/-- The nodes of numbers that are all indexed come without a gap, by number. -/
theorem collect_eq (hr : g.Refines w) (ids : Option (DistinctList NodeId))
    (hall : ∀ y ∈ ids.getD ∅, ∃ h, g.byId? y = some h) :
    ∃ hs : List Nat, g.collect ids = hs.map some ∧ (hs.map g.number).Pairwise (· < ·) ∧
      ∀ h, h ∈ hs ↔ ∃ y ∈ ids.getD ∅, g.byId? y = some h := by
  have hmem : ∀ h?, h? ∈ g.collect ids ↔ ∃ y ∈ ids.getD ∅, g.byId? y = h? := by
    intro h?
    rw [collect, List.mem_mergeSort, List.mem_map]
    rfl
  have hrange : g.collect ids ∈ Set.range (List.map some) := by
    rw [Set.range_list_map]
    intro h? hh
    rcases (hmem h?).1 hh with ⟨y, hy, rfl⟩
    rcases hall y hy with ⟨h, hget⟩
    exact ⟨h, hget.symm⟩
  have hpairwise : ((g.collect ids).map g.numberOf).Pairwise (· < ·) := by
    refine pairwise_mergeSort_number g.numberOf _ ?_
    have hids : ((ids.getD ∅).toList.map g.byId?).map g.numberOf = (ids.getD ∅).toList := by
      rw [List.map_map]
      refine (List.map_congr_left (fun y hy => ?_)).trans (List.map_id _)
      rcases hall y hy with ⟨h, hget⟩
      rw [Function.comp_apply, hget]
      exact hr.number_eq h y hget
    rw [hids]
    exact (ids.getD ∅).nodup
  rcases hrange with ⟨hs, hhs⟩
  refine ⟨hs, hhs.symm, ?_, ?_⟩
  · rw [← hhs, List.map_map] at hpairwise
    exact hpairwise
  · intro h
    rw [← hmem, ← hhs]
    simp

theorem none_not_mem_collect (hr : g.Refines w) (ids : Option (DistinctList NodeId))
    (hall : ∀ y ∈ ids.getD ∅, ∃ h, g.byId? y = some h) : none ∉ g.collect ids := by
  rcases hr.collect_eq ids hall with ⟨hs, hcollect, _⟩
  rw [hcollect]
  simp

-- Both ends of an edge are indexed.
theorem exists_byId? (hr : g.Refines w) (hw : w.Consistent) (x y : NodeId)
    (he : (x, y) ∈ w.graph.edges) : (∃ h, g.byId? x = some h) ∧ ∃ h, g.byId? y = some h := by
  have hformed := Graph.built_wellFormed _ hw.built
  have hnode : ∀ n ∈ w.graph.nodes, ∃ h, g.byId? n.id = some h := by
    intro n hn
    rcases List.getElem?_of_mem (hw.mem_offered n hn) with ⟨h, hh⟩
    exact ⟨h, (hr.byNumber n.id h).2 ⟨n, hh, hformed.id?_eq n hn⟩⟩
  rcases hformed.caller _ he with ⟨m, hm, rfl⟩
  rcases hformed.callee _ he with ⟨n, hn, rfl⟩
  exact ⟨hnode m hm, hnode n hn⟩

theorem exists_of_mem_callees (hr : g.Refines w) (hw : w.Consistent) (x : NodeId) :
    ∀ y ∈ (g.callees.get? x).getD ∅, ∃ h, g.byId? y = some h :=
  fun y hy => (hr.exists_byId? hw x y ((hr.callees x y).1 hy)).2

theorem exists_of_mem_callers (hr : g.Refines w) (hw : w.Consistent) (y : NodeId) :
    ∀ x ∈ (g.callers.get? y).getD ∅, ∃ h, g.byId? x = some h :=
  fun x hx => (hr.exists_byId? hw x y ((hr.callers x y).1 hx)).1

theorem byId?_map_node (hr : g.Refines w) (hw : w.Consistent) (n : Node) (x : NodeId) :
    (∃ h, g.byId? x = some h ∧ g.node h = n) ↔ n ∈ w.graph.nodes ∧ n.id = x := by
  have hformed := Graph.built_wellFormed _ hw.built
  constructor
  · rintro ⟨h, hget, hnode⟩
    rcases (hr.byNumber x h).1 hget with ⟨m, hm, hid⟩
    rw [hr.node_eq h m hm] at hnode
    subst hnode
    rw [hw.nodes, List.mem_filter, Node.id, hid]
    exact ⟨⟨List.mem_of_getElem? hm, rfl⟩, rfl⟩
  · rintro ⟨hn, rfl⟩
    rcases List.getElem?_of_mem (hw.mem_offered n hn) with ⟨h, hh⟩
    exact ⟨h, (hr.byNumber n.id h).2 ⟨n, hh, hformed.id?_eq n hn⟩, hr.node_eq h n hh⟩

theorem nodes_eq (hr : g.Refines w) (hw : w.Consistent) : g.nodes.map g.node = w.graph.nodes := by
  refine eq_of_pairwise_number Node.id _ _ ?_ (Graph.built_wellFormed _ hw.built).pairwise_id ?_
  · rw [List.map_map]
    exact hr.nodes_pairwise
  · intro n
    rw [List.mem_map, hw.nodes, List.mem_filter]
    constructor
    · rintro ⟨h, hh, rfl⟩
      rcases (hr.mem_nodes_iff h).1 hh with ⟨m, hm, hsome⟩
      rw [hr.node_eq h m hm]
      exact ⟨List.mem_of_getElem? hm, hsome⟩
    · rintro ⟨hn, hsome⟩
      rcases List.getElem?_of_mem hn with ⟨h, hh⟩
      exact ⟨h, (hr.mem_nodes_iff h).2 ⟨n, hh, hsome⟩, hr.node_eq h n hh⟩

theorem find?_eq (hr : g.Refines w) (hw : w.Consistent) (method : MethodRef) (context : String) :
    (g.find? method context).map g.node = w.graph.find? method context := by
  refine Option.ext (fun n => ?_)
  rw [Option.map_eq_some_iff, (Graph.built_distinct _ hw.built).find?_eq_some_iff, hw.nodes,
    List.mem_filter]
  constructor
  · rintro ⟨h, hget, rfl⟩
    rcases (hr.byKey method context h).1 hget with ⟨m, hm, hsome, hkey⟩
    rw [hr.node_eq h m hm]
    exact ⟨⟨List.mem_of_getElem? hm, hsome⟩, hkey⟩
  · rintro ⟨⟨hn, hsome⟩, hkey⟩
    rcases List.getElem?_of_mem hn with ⟨h, hh⟩
    exact ⟨h, (hr.byKey method context h).2 ⟨n, hh, hsome, hkey⟩, hr.node_eq h n hh⟩

/-- What is collected for the numbers of some nodes are these nodes, by number. -/
theorem collect_map_node (hr : g.Refines w) (hw : w.Consistent)
    (ids : Option (DistinctList NodeId)) (hall : ∀ y ∈ ids.getD ∅, ∃ h, g.byId? y = some h)
    (ns : List Node) (hsorted : (ns.map Node.id).Pairwise (· < ·))
    (hns : ∀ n, n ∈ ns ↔ n ∈ w.graph.nodes ∧ n.id ∈ ids.getD ∅) :
    (g.collect ids).filterMap (fun h? => h?.map g.node) = ns := by
  rcases hr.collect_eq ids hall with ⟨hs, hcollect, hpairwise, hmem⟩
  have hfilter : (hs.map some).filterMap (fun h? => h?.map g.node) = hs.map g.node := by
    rw [List.filterMap_map]
    exact congrFun List.filterMap_eq_map hs
  rw [hcollect, hfilter]
  refine eq_of_pairwise_number Node.id _ _ ?_ hsorted ?_
  · rw [List.map_map]
    exact hpairwise
  · intro n
    rw [List.mem_map, hns]
    constructor
    · rintro ⟨h, hh, hnode⟩
      rcases (hmem h).1 hh with ⟨y, hy, hget⟩
      rcases (hr.byId?_map_node hw n y).1 ⟨h, hget, hnode⟩ with ⟨hn, rfl⟩
      exact ⟨hn, hy⟩
    · rintro ⟨hn, hid⟩
      rcases (hr.byId?_map_node hw n n.id).2 ⟨hn, rfl⟩ with ⟨h, hget, hnode⟩
      exact ⟨h, (hmem h).2 ⟨n.id, hid, hget⟩, hnode⟩

/-- The indexed graph gives the answers of the graph. -/
theorem answers_eq (hr : g.Refines w) (hw : w.Consistent) : g.answers = w.graph.answers := by
  have hformed := Graph.built_wellFormed _ hw.built
  have hpreds : g.answers.preds = w.graph.answers.preds := by
    funext n
    refine hr.collect_map_node hw _ (hr.exists_of_mem_callers hw n.id) _
      (hformed.among_pairwise _) (fun m => ?_)
    rw [hr.callers, ← DistinctList.contains_iff]
    exact Graph.mem_preds_iff w.graph m n
  have hsuccs : g.answers.succs = w.graph.answers.succs := by
    funext m
    refine hr.collect_map_node hw _ (hr.exists_of_mem_callees hw m.id) _
      (hformed.among_pairwise _) (fun n => ?_)
    rw [hr.callees, ← DistinctList.contains_iff]
    exact Graph.mem_succs_iff w.graph m n
  have hedge : g.answers.hasEdge = w.graph.answers.hasEdge := by
    funext m n
    refine Bool.eq_iff_iff.2 ?_
    exact DistinctList.contains_iff.trans
      ((hr.callees m.id n.id).trans DistinctList.contains_iff.symm)
  have hentries : g.answers.entriesOf = w.graph.answers.entriesOf := by
    funext n
    exact congrArg (fun entries => n.entriesFrom (entries.get? n.id)) hr.entries
  have hfind : g.answers.find? = w.graph.answers.find? := by
    funext method context
    exact hr.find?_eq hw method context
  have hnodes : g.answers.nodes = w.graph.answers.nodes := hr.nodes_eq hw
  exact CallGraph.ext hnodes hfind hpreds hsuccs hedge hentries

end Refines

/-- Whatever is done to a call graph, the indexes give the answers that its lists of nodes and
    edges give. -/
theorem answers_run (acts : List Graph.Action) :
    (run acts).answers = (Graph.run acts).graph.answers :=
  (run_refines acts).answers_eq (Graph.run_consistent acts)

end IndexedGraph

end TaintSeed
