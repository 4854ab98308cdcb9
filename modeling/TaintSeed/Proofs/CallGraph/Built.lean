import Mathlib.Data.List.Basic
import Mathlib.Data.List.Nodup
import TaintSeed.CallGraph.Graph

/-!
# Call Graphs as They Are Built

A `Graph` is a record of lists, and not every such record is a call graph: the
numbers of the nodes could be anything, and edges could lead nowhere. `Built`
singles out the graphs that arise from the empty one by placing nodes, drawing
edges, listing roots and setting entries, in any order.

`WellFormed` is what all of them have in common. The number of a node is its
position, so numbers tell nodes apart, and both ends of every edge are nodes
of the graph. It is kept by each of the operations, and `built_wellFormed` is
the induction along the way a graph was built.

Callees and callers are read off the one list of edges, so `mem_succs_iff` and
`mem_preds_iff` are two readings of `hasEdge` and hold of any graph.

## Main definitions

* `Graph.Built`: The graph arises from the empty one by the operations.
* `Graph.WellFormed`: Nodes are numbered by position and edges join nodes.

## Theorems

* `Graph.place_wellFormed`: Placing a node keeps a graph well-formed.
* `Graph.connect_wellFormed`: So does drawing an edge.
* `Graph.built_wellFormed`: A graph that was built is well-formed.
* `Graph.eq_of_id_eq`: Numbers tell nodes apart.
* `Graph.mem_succs_iff`, `Graph.mem_preds_iff`: Callees and callers are the ends of edges.
-/

namespace TaintSeed

namespace Graph

/-- The graph arises from the empty one by the operations on graphs. -/
inductive Built : Graph → Prop
  /-- The graph without nodes. -/
  | empty : Built .empty
  /-- A node is placed, or found to be there. -/
  | place {g : Graph} (n : Node) (built : Built g) : Built (g.place n).1
  /-- An edge is drawn. -/
  | connect {g g' : Graph} (caller callee : Node) (built : Built g)
      (drawn : g.connect caller callee = .ok g') : Built g'
  /-- A node is listed among the roots. -/
  | addRoot {g : Graph} (n : Node) (built : Built g) : Built (g.addRoot n)
  /-- The entry blocks of a node are set. -/
  | setEntries {g : Graph} (n : Node) (blocks : List Int) (built : Built g) :
      Built (g.setEntries n blocks)

/-- The number of a node is its position, and edges join nodes of the graph. -/
structure WellFormed (g : Graph) : Prop where
  /-- The nodes are numbered in the order of the list. -/
  numbered : g.nodes.map Node.id? = (List.range g.nodes.length).map (fun i : Nat => some (i : NodeId))
  /-- The caller of an edge is a node. -/
  caller : ∀ e ∈ g.edges, ∃ n ∈ g.nodes, n.id = e.1
  /-- The callee of an edge is a node. -/
  callee : ∀ e ∈ g.edges, ∃ n ∈ g.nodes, n.id = e.2

theorem empty_wellFormed : Graph.empty.WellFormed :=
  ⟨rfl, fun _ he => absurd he (DistinctList.not_mem_empty _),
    fun _ he => absurd he (DistinctList.not_mem_empty _)⟩

/-- A placed node gets the number behind those of the nodes that are there. -/
theorem place_wellFormed (g : Graph) (n : Node) (hg : g.WellFormed) : (g.place n).1.WellFormed := by
  unfold place
  cases g.find? n.method n.context with
  | some there => exact hg
  | none =>
      refine ⟨?_, ?_, ?_⟩
      · simp only [List.map_append, List.length_append, List.length_singleton, List.range_succ]
        rw [hg.numbered]
        rfl
      · intro e he
        rcases hg.caller e he with ⟨m, hm, hid⟩
        exact ⟨m, List.mem_append_left _ hm, hid⟩
      · intro e he
        rcases hg.callee e he with ⟨m, hm, hid⟩
        exact ⟨m, List.mem_append_left _ hm, hid⟩

/-- A node that the graph holds is one of its nodes. -/
theorem mem_nodes_of_holds (g : Graph) (n : Node) (hn : g.holds n = true) : n ∈ g.nodes := by
  unfold holds at hn
  split at hn
  · cases hn
  · rename_i id _
    rw [beq_iff_eq] at hn
    unfold byId? Node.nth? at hn
    split at hn
    · cases hn
    · exact List.mem_of_getElem? hn

/-- An edge is drawn between nodes of the graph only. -/
theorem connect_wellFormed (g g' : Graph) (caller callee : Node)
    (hdrawn : g.connect caller callee = .ok g') (hg : g.WellFormed) : g'.WellFormed := by
  unfold connect at hdrawn
  split at hdrawn
  · rename_i hboth
    rw [Bool.and_eq_true] at hboth
    cases hdrawn
    refine ⟨hg.numbered, ?_, ?_⟩
    · intro e he
      rcases DistinctList.mem_insert.1 he with hold | rfl
      · exact hg.caller e hold
      · exact ⟨caller, mem_nodes_of_holds g caller hboth.1, rfl⟩
    · intro e he
      rcases DistinctList.mem_insert.1 he with hold | rfl
      · exact hg.callee e hold
      · exact ⟨callee, mem_nodes_of_holds g callee hboth.2, rfl⟩
  · cases hdrawn

/-- Every graph that was built is well-formed, by induction on the way it was built. -/
theorem built_wellFormed (g : Graph) (hg : g.Built) : g.WellFormed := by
  induction hg with
  | empty => exact empty_wellFormed
  | place n _ ih => exact place_wellFormed _ n ih
  | connect _ _ _ hdrawn ih => exact connect_wellFormed _ _ _ _ hdrawn ih
  | addRoot n _ ih => exact ⟨ih.numbered, ih.caller, ih.callee⟩
  | setEntries n blocks _ ih => exact ⟨ih.numbered, ih.caller, ih.callee⟩

/-- The numbers of the nodes are the positions. -/
theorem WellFormed.map_id {g : Graph} (hg : g.WellFormed) :
    g.nodes.map Node.id = (List.range g.nodes.length).map (fun i : Nat => (i : NodeId)) := by
  have hid : Node.id = (fun o : Option NodeId => o.getD 0) ∘ Node.id? := rfl
  rw [hid, ← List.map_map, hg.numbered, List.map_map]
  rfl

/-- The numbers increase along the list of nodes. -/
theorem WellFormed.pairwise_id {g : Graph} (hg : g.WellFormed) :
    (g.nodes.map Node.id).Pairwise (· < ·) := by
  rw [hg.map_id]
  refine List.pairwise_map.2 (List.pairwise_lt_range.imp ?_)
  intro i j hij
  exact Int.ofNat_lt.2 hij

/-- No number is given twice. -/
theorem WellFormed.nodup_id {g : Graph} (hg : g.WellFormed) : (g.nodes.map Node.id).Nodup :=
  hg.pairwise_id.imp Int.ne_of_lt

/-- A node of the graph has a number. -/
theorem WellFormed.id?_eq {g : Graph} (hg : g.WellFormed) (n : Node) (hn : n ∈ g.nodes) :
    n.id? = some n.id := by
  have hmem : n.id? ∈ g.nodes.map Node.id? := List.mem_map_of_mem hn
  rw [hg.numbered] at hmem
  rcases List.mem_map.1 hmem with ⟨i, _, hi⟩
  rw [Node.id, ← hi]
  rfl

/-- The numbers are those from zero up to the number of nodes. -/
theorem WellFormed.id_range {g : Graph} (hg : g.WellFormed) (n : Node) (hn : n ∈ g.nodes) :
    0 ≤ n.id ∧ n.id < g.size := by
  have hmem : n.id ∈ g.nodes.map Node.id := List.mem_map_of_mem hn
  rw [hg.map_id] at hmem
  rcases List.mem_map.1 hmem with ⟨i, hi, hid⟩
  rw [List.mem_range] at hi
  rw [← hid, size]
  exact ⟨Int.natCast_nonneg i, Int.ofNat_lt.2 hi⟩

/-- Numbers tell the nodes of a graph apart. -/
theorem WellFormed.eq_of_id_eq {g : Graph} (hg : g.WellFormed) (m n : Node) (hm : m ∈ g.nodes)
    (hn : n ∈ g.nodes) (hid : m.id = n.id) : m = n :=
  List.inj_on_of_nodup_map hg.nodup_id hm hn hid

/-! ## Callees and callers -/

theorem mem_among (g : Graph) (ids : List NodeId) (n : Node) :
    n ∈ g.among ids ↔ n ∈ g.nodes ∧ n.id ∈ ids := by
  simp [among]

theorem WellFormed.among_pairwise {g : Graph} (hg : g.WellFormed) (ids : List NodeId) :
    ((g.among ids).map Node.id).Pairwise (· < ·) :=
  hg.pairwise_id.sublist (List.filter_sublist.map Node.id)

/-- The callees of a node are the ends of the edges that leave it. -/
theorem mem_succs_iff (g : Graph) (m n : Node) :
    n ∈ g.succs m ↔ n ∈ g.nodes ∧ g.hasEdge m n = true := by
  rw [succs, mem_among, hasEdge, DistinctList.contains_iff, ← DistinctList.mem_toList]
  simp

/-- The callers of a node are the beginnings of the edges that reach it. -/
theorem mem_preds_iff (g : Graph) (m n : Node) :
    m ∈ g.preds n ↔ m ∈ g.nodes ∧ g.hasEdge m n = true := by
  rw [preds, mem_among, hasEdge, DistinctList.contains_iff, ← DistinctList.mem_toList]
  simp

/-! ## A small call graph -/

/-- The platform calls an application method, which calls itself and the platform. The platform
    goes around in a circle and calls a synthetic method on the way. -/
def callback : Graph where
  nodes :=
    [⟨some 0, ⟨"os", "Looper", "loop", "()V"⟩, "", .primordial, false, [1], [], 3⟩,
     ⟨some 1, ⟨"app", "Receiver", "onReceive", "(I)V"⟩, "", .application, false, [1, 2], [], 2⟩,
     ⟨some 2, ⟨"os", "Queue", "next", "()V"⟩, "", .primordial, false, [1], [], 1⟩,
     ⟨some 3, ⟨"os", "Model", "stub", "()V"⟩, "", .primordial, true, [], [], 0⟩]
  edges := .ofList [(0, 1), (1, 1), (1, 2), (2, 0), (2, 3)]
  entries := ∅
  roots := []

/-- The sample arises by placing its nodes and drawing its edges one by one. -/
theorem callback_built : callback.Built := by
  let node : Fin 4 → Node := callback.nodes.get
  have placed : Built { callback with edges := ∅ } :=
    .place (node 3) (.place (node 2) (.place (node 1) (.place (node 0) .empty)))
  have into : Built { callback with edges := .ofList [(0, 1)] } :=
    .connect (node 0) (node 1) placed rfl
  have loop : Built { callback with edges := .ofList [(0, 1), (1, 1)] } :=
    .connect (node 1) (node 1) into rfl
  have out : Built { callback with edges := .ofList [(0, 1), (1, 1), (1, 2)] } :=
    .connect (node 1) (node 2) loop rfl
  have around : Built { callback with edges := .ofList [(0, 1), (1, 1), (1, 2), (2, 0)] } :=
    .connect (node 2) (node 0) out rfl
  exact .connect (node 2) (node 3) around rfl

end Graph

end TaintSeed
