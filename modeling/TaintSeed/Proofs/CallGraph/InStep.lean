import TaintSeed.Proofs.CallGraph.Refinement

/-!
# The Indexes Stay in Step

`InStep` is what a call graph owes to whoever uses it, said of handles and
indexes alone: which of the offered nodes it has and how they are numbered, that
each index finds exactly them, which edges it has, and that the lists it gives
are sorted and have no gap. It holds after every history, whatever the order of
the actions.

Handles matter where nodes are alike. A duplicate reads as number zero, so the
indexes by number answer for it as if it were the first node of the graph; an
edge is refused to it because the handle under zero is not its own.

That an edge was drawn is said with the graph at the time of the request. The
edges of the graph are those that were drawn, by induction on the actions: a
node that was offered stays as it is, so the numbers of an edge keep leading to
its ends.

## Main definitions

* `IndexedGraph.Drawn`: An edge was asked for and drawn.
* `IndexedGraph.InStep`: The indexes are what the history says.

## Theorems

* `IndexedGraph.Refines.mem_succs_iff`, `IndexedGraph.Refines.mem_preds_iff`: The lists of
  callees and callers hold the edges.
* `IndexedGraph.mem_edges_run`: The edges are those that were drawn.
* `IndexedGraph.run_inStep`: Every history keeps the indexes in step.
-/

namespace TaintSeed

namespace IndexedGraph

theorem connect_eq_ok_iff (g : IndexedGraph) (a b : Nat) :
    (g.connect a b).1 = .ok () ↔ g.holds a = true ∧ g.holds b = true := by
  unfold connect
  split
  · rename_i hboth
    exact iff_of_true rfl (Bool.and_eq_true_iff.1 hboth)
  · rename_i hboth
    refine iff_of_false (fun hc => ?_) (fun hc => hboth (Bool.and_eq_true_iff.2 hc))
    cases hc

theorem connect_snd_of_error (g : IndexedGraph) (a b : Nat) (e : Graph.NotInGraph)
    (herror : (g.connect a b).1 = .error e) : (g.connect a b).2 = g := by
  unfold connect at herror ⊢
  split at herror
  · cases herror
  · rename_i hboth
    rw [if_neg hboth]

namespace Refines

variable {g : IndexedGraph} {w : Graph.Ledger}

theorem byId?_eq_some_iff (hr : g.Refines w) (id : NodeId) (h : Nat) :
    g.byId? id = some h ↔ h ∈ g.nodes ∧ g.number h = id := by
  rw [byId?, hr.byNumber, hr.mem_nodes_iff]
  constructor
  · rintro ⟨n, hn, hid⟩
    refine ⟨⟨n, hn, by rw [hid]; rfl⟩, ?_⟩
    rw [number, hr.node_eq h n hn, Node.id, hid, Option.getD_some]
  · rintro ⟨⟨n, hn, hsome⟩, rfl⟩
    refine ⟨n, hn, ?_⟩
    rw [number, hr.node_eq h n hn, Node.id, Option.getD_of_ne_none (Option.isSome_iff_ne_none.1 hsome)]

theorem eq_of_number_eq (hr : g.Refines w) (a b : Nat) (ha : a ∈ g.nodes) (hb : b ∈ g.nodes)
    (heq : g.number a = g.number b) : a = b := by
  have hget := (hr.byId?_eq_some_iff (g.number b) b).2 ⟨hb, rfl⟩
  rw [(hr.byId?_eq_some_iff (g.number b) a).2 ⟨ha, heq⟩, Option.some.injEq] at hget
  exact hget

theorem holds_iff_mem (hr : g.Refines w) (h : Nat) : g.holds h = true ↔ h ∈ g.nodes := by
  rw [holds, beq_iff_eq]
  exact (hr.byId?_eq_some_iff _ h).trans (and_iff_left rfl)

theorem find?_eq_some_iff (hr : g.Refines w) (method : MethodRef) (context : String) (h : Nat) :
    g.find? method context = some h ↔ h ∈ g.nodes ∧ g.keyOf h = (method, context) := by
  rw [find?, hr.byKey, hr.mem_nodes_iff]
  constructor
  · rintro ⟨n, hn, hsome, hkey⟩
    refine ⟨⟨n, hn, hsome⟩, ?_⟩
    rw [keyOf, hr.node_eq h n hn, hkey.1, hkey.2]
  · rintro ⟨⟨n, hn, hsome⟩, hkey⟩
    rw [keyOf, hr.node_eq h n hn, Prod.mk.injEq] at hkey
    exact ⟨n, hn, hsome, hkey⟩

theorem eq_of_keyOf_eq (hr : g.Refines w) (a b : Nat) (ha : a ∈ g.nodes) (hb : b ∈ g.nodes)
    (heq : g.keyOf a = g.keyOf b) : a = b := by
  have hfind := (hr.find?_eq_some_iff _ _ b).2 ⟨hb, rfl⟩
  rw [(hr.find?_eq_some_iff _ _ a).2 ⟨ha, heq⟩, Option.some.injEq] at hfind
  exact hfind

theorem contains_byNumber_iff (hr : g.Refines w) (id : NodeId) :
    g.byNumber.contains id = true ↔ ∃ h ∈ g.nodes, g.number h = id := by
  rw [Table.contains, Option.isSome_iff_exists]
  exact exists_congr (fun h => hr.byId?_eq_some_iff id h)

theorem mem_nodes_iff_first (hr : g.Refines w) (hw : w.Consistent) (h : Nat) :
    h ∈ g.nodes ↔ h < g.made.length ∧ ∀ j < h, g.keyOf j ≠ g.keyOf h := by
  have hkey : ∀ j n m, w.offered[j]? = some m → w.offered[h]? = some n →
      (g.keyOf j = g.keyOf h ↔ Graph.SameKey m n) := by
    intro j n m hm hn
    rw [keyOf, keyOf, hr.node_eq j m hm, hr.node_eq h n hn, Prod.mk.injEq]
    exact Iff.rfl
  rw [hr.mem_nodes_iff]
  constructor
  · rintro ⟨n, hn, hsome⟩
    have hlt : h < g.made.length := by
      rw [hr.made]
      exact (List.getElem?_eq_some_iff.1 hn).1
    refine ⟨hlt, fun j hj hc => ?_⟩
    have hm := hr.exists_node j (Nat.lt_trans hj hlt)
    exact (hw.first h n hn).1 hsome j _ hj hm ((hkey j n _ hm hn).1 hc)
  · rintro ⟨hlt, hfirst⟩
    have hn := hr.exists_node h hlt
    refine ⟨_, hn, (hw.first h _ hn).2 (fun j m hj hm hc => ?_)⟩
    exact hfirst j hj ((hkey j _ m hm hn).2 hc)

/-- The nodes are the handles of accepted nodes as they come, because the later of two nodes has
    the greater number. -/
theorem nodes_increasing (hr : g.Refines w) (hw : w.Consistent) : g.nodes.Pairwise (· < ·) := by
  have hmade : (List.range g.made.length).map g.node = g.made := by
    refine List.ext_getElem (by simp) (fun i hi hi' => ?_)
    simp [node, List.getElem?_eq_getElem hi']
  have hlist : ((List.range g.made.length).filter (fun h => (g.node h).id?.isSome)).map g.node
      = w.graph.nodes := by
    rw [hw.nodes, ← hr.made, ← hmade, List.filter_map, hmade]
    rfl
  have hsame : g.nodes = (List.range g.made.length).filter (fun h => (g.node h).id?.isSome) := by
    refine eq_of_pairwise_number g.number _ _ hr.nodes_pairwise ?_ (fun h => ?_)
    · have hids := (Graph.built_wellFormed _ hw.built).pairwise_id
      rw [← hlist, List.map_map] at hids
      exact hids
    · rw [hr.mem_nodes_iff, List.mem_filter, List.mem_range]
      constructor
      · rintro ⟨n, hn, hsome⟩
        rw [hr.node_eq h n hn, hr.made]
        exact ⟨(List.getElem?_eq_some_iff.1 hn).1, hsome⟩
      · rintro ⟨hlt, hsome⟩
        exact ⟨_, hr.exists_node h hlt, hsome⟩
  rw [hsame]
  exact List.pairwise_lt_range.filter _

theorem map_number_nodes (hr : g.Refines w) (hw : w.Consistent) :
    g.nodes.map g.number = (List.range g.size).map (fun i : Nat => (i : NodeId)) := by
  have hnodes := hr.nodes_eq hw
  have hsize : g.size = w.graph.nodes.length := by
    rw [← hnodes, List.length_map, nodes, List.length_mergeSort, List.length_map]
    rfl
  have hids := (Graph.built_wellFormed _ hw.built).map_id
  rw [← hnodes, List.map_map, hnodes] at hids
  rw [hsize]
  exact hids

/-- A duplicate has no number of its own, and under zero there is the first node. -/
theorem duplicate_number (hr : g.Refines w) (hw : w.Consistent) (h : Nat)
    (hh : h < g.made.length) (hout : h ∉ g.nodes) :
    g.number h = 0 ∧ ∃ there ∈ g.nodes, there ≠ h ∧ g.byId? 0 = some there := by
  have hn := hr.exists_node h hh
  have hnone : (g.node h).id? = none := by
    cases hid : (g.node h).id? with
    | none => rfl
    | some x => exact absurd ((hr.mem_nodes_iff h).2 ⟨_, hn, by rw [hid]; rfl⟩) hout
  have hsize : 0 < g.size := by
    -- The node that it duplicates is in the graph.
    rcases hw.known _ (List.mem_of_getElem? hn) with ⟨m, hm, _⟩
    rw [← hr.nodes_eq hw] at hm
    have hpos := List.length_pos_of_mem hm
    rw [List.length_map, nodes, List.length_mergeSort, List.length_map] at hpos
    exact hpos
  have hzero : (0 : NodeId) ∈ g.nodes.map g.number := by
    rw [hr.map_number_nodes hw]
    exact List.mem_map.2 ⟨0, List.mem_range.2 hsize, rfl⟩
  rcases List.mem_map.1 hzero with ⟨there, hmem, hnumber⟩
  refine ⟨by rw [number, Node.id, hnone, Option.getD_none], there, hmem, ?_,
    (hr.byId?_eq_some_iff 0 there).2 ⟨hmem, hnumber⟩⟩
  rintro rfl
  exact hout hmem

/-- What is collected for the numbers that a row holds are the nodes of these numbers. -/
theorem mem_collect_iff (hr : g.Refines w) (ids : Option (DistinctList NodeId))
    (hall : ∀ y ∈ ids.getD ∅, ∃ h, g.byId? y = some h) (h? : Option Nat) :
    h? ∈ g.collect ids ↔ ∃ h ∈ g.nodes, h? = some h ∧ g.number h ∈ ids.getD ∅ := by
  rcases hr.collect_eq ids hall with ⟨hs, hcollect, _, hmem⟩
  rw [hcollect, List.mem_map]
  constructor
  · rintro ⟨h, hh, rfl⟩
    rcases (hmem h).1 hh with ⟨y, hy, hget⟩
    rcases (hr.byId?_eq_some_iff y h).1 hget with ⟨hnode, rfl⟩
    exact ⟨h, hnode, rfl, hy⟩
  · rintro ⟨h, hnode, rfl, hy⟩
    exact ⟨h, (hmem h).2 ⟨_, hy, (hr.byId?_eq_some_iff _ h).2 ⟨hnode, rfl⟩⟩, rfl⟩

theorem collect_pairwise (hr : g.Refines w) (ids : Option (DistinctList NodeId))
    (hall : ∀ y ∈ ids.getD ∅, ∃ h, g.byId? y = some h) :
    ((g.collect ids).map g.numberOf).Pairwise (· < ·) := by
  rcases hr.collect_eq ids hall with ⟨hs, hcollect, hpairwise, _⟩
  rw [hcollect, List.map_map]
  exact hpairwise

/-! ### Callees and callers -/

theorem hasEdge_iff_mem (hr : g.Refines w) (a b : Nat) :
    g.hasEdge a b = true ↔ (g.number a, g.number b) ∈ w.graph.edges :=
  DistinctList.contains_iff.trans (hr.callees _ _)

theorem mem_succs_iff (hr : g.Refines w) (hw : w.Consistent) (a : Nat) (b? : Option Nat) :
    b? ∈ g.succs a ↔ ∃ b ∈ g.nodes, b? = some b ∧ g.hasEdge a b = true := by
  rw [succs, succsAt, hr.mem_collect_iff _ (hr.exists_of_mem_callees hw _)]
  refine exists_congr (fun b => and_congr_right (fun _ => and_congr_right (fun _ => ?_)))
  rw [hr.hasEdge_iff_mem, hr.callees]

theorem mem_preds_iff (hr : g.Refines w) (hw : w.Consistent) (b : Nat) (a? : Option Nat) :
    a? ∈ g.preds b ↔ ∃ a ∈ g.nodes, a? = some a ∧ g.hasEdge a b = true := by
  rw [preds, predsAt, hr.mem_collect_iff _ (hr.exists_of_mem_callers hw _)]
  refine exists_congr (fun a => and_congr_right (fun _ => and_congr_right (fun _ => ?_)))
  rw [hr.hasEdge_iff_mem, hr.callers]

/-! ### Requests that change nothing -/

theorem exists_add_eq (hr : g.Refines w) (hw : w.Consistent) (h : Nat) (hh : h < g.made.length) :
    ∃ there ∈ g.nodes, g.keyOf there = g.keyOf h ∧ g.add h = (g, there) := by
  rcases hr.add_eq hw h hh with ⟨there, hget, hadd⟩
  rcases (hr.find?_eq_some_iff _ _ there).1 hget with ⟨hmem, hkey⟩
  exact ⟨there, hmem, hkey, hadd⟩

theorem make_add_eq (hr : g.Refines w) (n : Node) (there : Nat) (hmem : there ∈ g.nodes)
    (hkey : g.keyOf there = (n.method, n.context)) :
    (g.make n).add g.made.length = (g.make n, there) := by
  have hget : (g.make n).byKey.get? ((g.make n).keyOf g.made.length) = some there := by
    rw [keyOf_make]
    exact (hr.find?_eq_some_iff _ _ there).2 ⟨hmem, hkey⟩
  simp only [add, hget]

theorem connect_eq_error_iff (hr : g.Refines w) (a b : Nat) :
    (∃ e, (g.connect a b).1 = .error e) ↔ ¬ (a ∈ g.nodes ∧ b ∈ g.nodes) := by
  rw [← hr.holds_iff_mem, ← hr.holds_iff_mem, ← connect_eq_ok_iff]
  cases (g.connect a b).1 with
  | error e => simp
  | ok u => simp

end Refines

/-! ## The edges of a history -/

/-- In the course of the actions an edge from one node to another was asked for and drawn. -/
def Drawn (acts : List Graph.Action) (a b : Nat) : Prop :=
  ∃ before after, acts = before ++ .connect a b :: after ∧
    a < (run before).made.length ∧ b < (run before).made.length ∧
    ((run before).connect a b).1 = .ok ()

theorem not_drawn_nil (a b : Nat) : ¬ Drawn [] a b := by
  rintro ⟨before, after, hacts, _⟩
  exact absurd hacts.symm (List.append_ne_nil_of_right_ne_nil _ (List.cons_ne_nil _ _))

/-- An edge was drawn before the last action or by it. -/
theorem drawn_concat (acts : List Graph.Action) (x : Graph.Action) (a b : Nat) :
    Drawn (acts ++ [x]) a b ↔ Drawn acts a b ∨
      x = .connect a b ∧ a < (run acts).made.length ∧ b < (run acts).made.length ∧
        ((run acts).connect a b).1 = .ok () := by
  constructor
  · rintro ⟨before, after, hacts, hok⟩
    rcases List.eq_nil_or_concat after with rfl | ⟨after, y, rfl⟩
    · rcases List.append_inj' hacts rfl with ⟨rfl, hx⟩
      exact Or.inr ⟨List.head_eq_of_cons_eq hx, hok⟩
    · rw [List.concat_eq_append, ← List.cons_append, ← List.append_assoc] at hacts
      exact Or.inl ⟨before, after, (List.append_inj' hacts rfl).1, hok⟩
  · rintro (⟨before, after, rfl, hok⟩ | ⟨rfl, hok⟩)
    · exact ⟨before, after ++ [x], by simp, hok⟩
    · exact ⟨acts, [], rfl, hok⟩

/-- An action on the graph draws an edge if it asks for one between nodes of the graph. -/
theorem Refines.mem_edges_act {g : IndexedGraph} {w : Graph.Ledger} (hr : g.Refines w)
    (hw : w.Consistent) (x : Graph.Action) (e : NodeId × NodeId) :
    e ∈ (w.act x).graph.edges ↔ e ∈ w.graph.edges ∨
      ∃ a b, (x = .connect a b ∧ a < g.made.length ∧ b < g.made.length ∧
        (g.connect a b).1 = .ok ()) ∧ e = (g.number a, g.number b) := by
  have heff := Graph.Ledger.act_effect w hw x
  generalize w.act x = w' at heff
  cases heff with
  | accepted n new => simp
  | turnedDown n there mem key => simp
  | drawn i j a b caller callee mem =>
      have hi := (hr.holds_iff hw i a caller).2 mem.1
      have hj := (hr.holds_iff hw j b callee).2 mem.2
      have hlt : i < g.made.length ∧ j < g.made.length := by
        rw [hr.made]
        exact ⟨(List.getElem?_eq_some_iff.1 caller).1, (List.getElem?_eq_some_iff.1 callee).1⟩
      have hids : (a.id, b.id) = (g.number i, g.number j) := by
        rw [number, number, hr.node_eq i a caller, hr.node_eq j b callee]
      rw [DistinctList.mem_insert, hids]
      refine or_congr Iff.rfl ⟨?_, ?_⟩
      · rintro rfl
        exact ⟨i, j, ⟨rfl, hlt.1, hlt.2, (connect_eq_ok_iff g i j).2 ⟨hi, hj⟩⟩, rfl⟩
      · rintro ⟨i', j', ⟨heq, _⟩, rfl⟩
        cases heq
        rfl
  | refused i j missing =>
      refine ⟨Or.inl, fun hc => hc.resolve_right ?_⟩
      rintro ⟨i', j', ⟨heq, hi, hj, hok⟩, _⟩
      cases heq
      rcases (connect_eq_ok_iff g i j).1 hok with ⟨hi', hj'⟩
      exact missing _ _ (hr.exists_node i hi) (hr.exists_node j hj)
        ⟨(hr.holds_iff hw i _ (hr.exists_node i hi)).1 hi',
          (hr.holds_iff hw j _ (hr.exists_node j hj)).1 hj'⟩
  | neither _ _ offer connect offered nodes edges =>
      rw [edges]
      refine ⟨Or.inl, fun hc => hc.resolve_right ?_⟩
      rintro ⟨i, j, ⟨heq, _⟩, _⟩
      exact connect i j heq

-- A node that was offered stays as it is.
theorem offered_act (w : Graph.Ledger) (hw : w.Consistent) (x : Graph.Action) (h : Nat) (n : Node)
    (hn : w.offered[h]? = some n) : (w.act x).offered[h]? = some n := by
  have heff := Graph.Ledger.act_effect w hw x
  generalize w.act x = w' at heff
  cases heff with
  | accepted m new => exact (getElem?_concat_iff _ _ _ _).2 (Or.inl hn)
  | turnedDown m there mem key => exact (getElem?_concat_iff _ _ _ _).2 (Or.inl hn)
  | drawn i j a b caller callee mem => exact hn
  | refused i j missing => exact hn
  | neither _ _ offer connect offered nodes edges => rw [offered]; exact hn

theorem mem_nodes_concat (acts : List Graph.Action) (x : Graph.Action) (h : Nat)
    (hh : h ∈ (run acts).nodes) :
    h ∈ (run (acts ++ [x])).nodes ∧ (run (acts ++ [x])).number h = (run acts).number h := by
  have hr := run_refines acts
  have hr' := run_refines (acts ++ [x])
  rcases (hr.mem_nodes_iff h).1 hh with ⟨n, hn, hsome⟩
  have hn' := offered_act _ (Graph.run_consistent acts) x h n hn
  rw [← Graph.run_concat] at hn'
  refine ⟨(hr'.mem_nodes_iff h).2 ⟨n, hn', hsome⟩, ?_⟩
  rw [number, number, hr'.node_eq h n hn', hr.node_eq h n hn]

theorem mem_nodes_of_drawn (acts : List Graph.Action) (a b : Nat) (h : Drawn acts a b) :
    a ∈ (run acts).nodes ∧ b ∈ (run acts).nodes := by
  induction acts using List.reverseRecOn with
  | nil => exact absurd h (not_drawn_nil a b)
  | append_singleton acts x ih =>
      have hmem : a ∈ (run acts).nodes ∧ b ∈ (run acts).nodes := by
        rcases (drawn_concat acts x a b).1 h with hold | ⟨_, _, _, hok⟩
        · exact ih hold
        · rcases (connect_eq_ok_iff _ a b).1 hok with ⟨ha, hb⟩
          exact ⟨((run_refines acts).holds_iff_mem a).1 ha, ((run_refines acts).holds_iff_mem b).1 hb⟩
      exact ⟨(mem_nodes_concat acts x a hmem.1).1, (mem_nodes_concat acts x b hmem.2).1⟩

/-- The edges are those that were drawn, by induction on the actions. -/
theorem mem_edges_run (acts : List Graph.Action) (e : NodeId × NodeId) :
    e ∈ (Graph.run acts).graph.edges ↔
      ∃ a b, Drawn acts a b ∧ e = ((run acts).number a, (run acts).number b) := by
  induction acts using List.reverseRecOn with
  | nil =>
      refine iff_of_false (DistinctList.not_mem_empty e) ?_
      rintro ⟨a, b, h, _⟩
      exact not_drawn_nil a b h
  | append_singleton acts x ih =>
      rw [Graph.run_concat, (run_refines acts).mem_edges_act (Graph.run_consistent acts), ih]
      simp only [drawn_concat, or_and_right, exists_or]
      -- The numbers of the ends are the same before and after.
      have hnumber : ∀ a b, a ∈ (run acts).nodes ∧ b ∈ (run acts).nodes →
          ((run (acts ++ [x])).number a, (run (acts ++ [x])).number b)
            = ((run acts).number a, (run acts).number b) := by
        rintro a b ⟨ha, hb⟩
        rw [(mem_nodes_concat acts x a ha).2, (mem_nodes_concat acts x b hb).2]
      refine or_congr ?_ ?_
      · refine exists_congr (fun a => exists_congr (fun b => and_congr_right (fun h => ?_)))
        rw [hnumber a b (mem_nodes_of_drawn acts a b h)]
      · refine exists_congr (fun a => exists_congr (fun b => and_congr_right (fun h => ?_)))
        rcases (connect_eq_ok_iff _ a b).1 h.2.2.2 with ⟨ha, hb⟩
        rw [hnumber a b ⟨((run_refines acts).holds_iff_mem a).1 ha,
          ((run_refines acts).holds_iff_mem b).1 hb⟩]

/-- Numbers tell nodes apart, so an edge between two nodes was drawn between these two. -/
theorem hasEdge_run_iff (acts : List Graph.Action) (a b : Nat) (ha : a ∈ (run acts).nodes)
    (hb : b ∈ (run acts).nodes) : (run acts).hasEdge a b = true ↔ Drawn acts a b := by
  have hr := run_refines acts
  rw [hr.hasEdge_iff_mem, mem_edges_run]
  constructor
  · rintro ⟨i, j, h, heq⟩
    rcases mem_nodes_of_drawn acts i j h with ⟨hi, hj⟩
    rcases Prod.mk.inj heq with ⟨hida, hidb⟩
    rw [hr.eq_of_number_eq a i ha hi hida, hr.eq_of_number_eq b j hb hj hidb]
    exact h
  · intro h
    exact ⟨a, b, h, rfl⟩

/-- The indexes are what the actions say. -/
structure InStep (acts : List Graph.Action) (g : IndexedGraph) : Prop where
  /-- But for their numbers, the nodes that were made are those of the offers. -/
  made : g.made.map Node.unplaced = acts.filterMap Graph.Action.offered?
  /-- The first offer of a method in a context is accepted, and no other. -/
  first : ∀ h, h ∈ g.nodes ↔ h < g.made.length ∧ ∀ j < h, g.keyOf j ≠ g.keyOf h
  /-- The nodes are listed in the order of their offers. -/
  order : g.nodes.Pairwise (· < ·)
  /-- They are numbered from zero in that order. -/
  numbered : g.nodes.map g.number = (List.range g.size).map (fun i : Nat => (i : NodeId))
  /-- A duplicate reads as number zero, which is the number of another node. -/
  duplicate : ∀ h < g.made.length, h ∉ g.nodes →
    g.number h = 0 ∧ ∃ there ∈ g.nodes, there ≠ h ∧ g.byId? 0 = some there
  /-- Two nodes never share both method and context. -/
  distinct : ∀ a ∈ g.nodes, ∀ b ∈ g.nodes, g.keyOf a = g.keyOf b → a = b
  /-- A look-up of a method in a context finds the node that has both. -/
  find : ∀ method context h, g.find? method context = some h ↔
    h ∈ g.nodes ∧ g.keyOf h = (method, context)
  /-- A look-up of a number finds the node that has it. -/
  byId : ∀ id h, g.byId? id = some h ↔ h ∈ g.nodes ∧ g.number h = id
  /-- The rows of callees and those of callers are the rows of the nodes. -/
  rows : ∀ id, (g.callees.contains id = true ↔ ∃ h ∈ g.nodes, g.number h = id) ∧
    (g.callers.contains id = true ↔ ∃ h ∈ g.nodes, g.number h = id)
  /-- A node that is offered again changes nothing and gives the node that is there. -/
  again : ∀ h < g.made.length, ∃ there ∈ g.nodes, g.keyOf there = g.keyOf h ∧
    g.add h = (g, there)
  /-- Nor does a new node whose method is there in its context. -/
  known : ∀ n, ∀ there ∈ g.nodes, g.keyOf there = (n.method, n.context) →
    (g.make n).add g.made.length = (g.make n, there)
  /-- An edge is refused when one of its nodes is not itself in the graph. -/
  refused : ∀ a < g.made.length, ∀ b < g.made.length,
    ((∃ e, (g.connect a b).1 = .error e) ↔ ¬ (a ∈ g.nodes ∧ b ∈ g.nodes))
  /-- A refused edge changes nothing. -/
  unchanged : ∀ a b e, (g.connect a b).1 = .error e → (g.connect a b).2 = g
  /-- There is an edge between two nodes if it was drawn. -/
  edges : ∀ a ∈ g.nodes, ∀ b ∈ g.nodes, (g.hasEdge a b = true ↔ Drawn acts a b)
  /-- The callees are the ends of edges, and none is missing. -/
  succs : ∀ a b?, b? ∈ g.succs a ↔ ∃ b ∈ g.nodes, b? = some b ∧ g.hasEdge a b = true
  /-- The callers are the beginnings of edges, and none is missing. -/
  preds : ∀ b a?, a? ∈ g.preds b ↔ ∃ a ∈ g.nodes, a? = some a ∧ g.hasEdge a b = true
  /-- Nodes, callees and callers are listed once each, by number. -/
  sorted : (g.nodes.map g.number).Pairwise (· < ·) ∧
    ∀ h, ((g.succs h).map g.numberOf).Pairwise (· < ·) ∧
      ((g.preds h).map g.numberOf).Pairwise (· < ·)

/-- Whatever is done to a call graph, and in whatever order, its indexes stay in step. -/
theorem run_inStep (acts : List Graph.Action) : InStep acts (run acts) := by
  have hr := run_refines acts
  have hw := Graph.run_consistent acts
  constructor
  case made =>
    rw [hr.made]
    exact Graph.unplaced_offered_run acts
  case first => exact hr.mem_nodes_iff_first hw
  case order => exact hr.nodes_increasing hw
  case numbered => exact hr.map_number_nodes hw
  case duplicate => exact hr.duplicate_number hw
  case distinct => exact fun a ha b hb => hr.eq_of_keyOf_eq a b ha hb
  case find => exact hr.find?_eq_some_iff
  case byId => exact hr.byId?_eq_some_iff
  case rows =>
    -- The rows of both tables are those of the index by number.
    intro id
    rw [(hr.rows id).1, (hr.rows id).2]
    exact ⟨hr.contains_byNumber_iff id, hr.contains_byNumber_iff id⟩
  case again => exact hr.exists_add_eq hw
  case known => exact hr.make_add_eq
  case refused => exact fun a _ b _ => hr.connect_eq_error_iff a b
  case unchanged => exact (run acts).connect_snd_of_error
  case edges => exact fun a ha b hb => hasEdge_run_iff acts a b ha hb
  case succs => exact hr.mem_succs_iff hw
  case preds => exact hr.mem_preds_iff hw
  case sorted =>
    exact ⟨hr.nodes_pairwise, fun h =>
      ⟨hr.collect_pairwise _ (hr.exists_of_mem_callees hw _),
        hr.collect_pairwise _ (hr.exists_of_mem_callers hw _)⟩⟩

end IndexedGraph

end TaintSeed
