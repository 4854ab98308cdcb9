import TaintSeed.Proofs.CallGraph.Refinement
import TaintSeed.Proofs.View.WellFormed
import TaintSeed.View.Slices

/-!
# The Slices Are What They Are Called

Each of the three slices is cut out by a test on the callers and callees of a
node, which the graph answers from two indexes, while the edges of a slice come
from the tables of the view. `IsInduced` says of a view that it is the part of
a graph on the nodes with some property, with every edge between them, and that
all the ways to ask for an edge agree.

The slices need callers, callees and edges of the graph to tell the same story.
`CallGraph.Coherent` is that story. A graph of lists tells it because callers
and callees are read off one list, and an indexed graph because it gives the
same answers after every history.

For each slice the property is stated with edges of the graph alone. The test
that cuts the boundary distinguishes two cases; its property does not: a node
is on the boundary when it is one of the ends of an edge that enters the
application. That the slices hold the edges that they are meant to hold
follows, because both ends of such an edge have the property.

## Main definitions

* `CallGraph.Coherent`: Callers, callees and edges agree.
* `View.IsInduced`: The view is the part of a graph on the nodes with a property.
* `View.IsPart`: The view is the part of another view on its own numbers.
* `Slices.Neighbour`: The node belongs to the application, calls it or is called by it.
* `Slices.Crossing`: The node is an end of an edge that enters the application.
* `Slices.Exact`: The slices are the parts on their properties, with the edges they are meant for.

## Theorems

* `View.induced_isInduced`: A test that decides a property cuts out its part.
* `View.IsInduced.mem_callNodes`: The nodes that a part lists.
* `View.IsInduced.isPart`: The part on a stronger property is a part of the other.
* `Slices.exact_of_wellFormed`: The three slices are the parts on their properties.
* `Slices.build_exact`: They are so for every history of a call graph.
-/

namespace TaintSeed

/-- Callers, callees and edges agree, and nodes are told apart by their numbers. -/
structure CallGraph.Coherent (c : CallGraph) : Prop where
  /-- The nodes are listed once each, by number. -/
  sorted : (c.nodes.map Node.id).Pairwise (· < ·)
  /-- The callees are the ends of edges. -/
  succs : ∀ m n, n ∈ c.succs m ↔ n ∈ c.nodes ∧ c.hasEdge m n = true
  /-- The callers are the beginnings of edges. -/
  preds : ∀ m n, m ∈ c.preds n ↔ m ∈ c.nodes ∧ c.hasEdge m n = true

theorem Graph.WellFormed.answers_coherent {g : Graph} (hg : g.WellFormed) : g.answers.Coherent :=
  ⟨hg.pairwise_id, Graph.mem_succs_iff g, Graph.mem_preds_iff g⟩

namespace View

/-- The view is the part of a call graph on the nodes with the property `P`: it has these nodes
    under their numbers, every edge between them and no other edge. -/
structure IsInduced (v : View) (c : CallGraph) (P : Node → Prop) : Prop where
  /-- The numbers are listed once each, in increasing order. -/
  sorted : v.keys.Pairwise (· < ·)
  /-- The numbers are those of the nodes with the property. -/
  keys : ∀ x, x ∈ v.keys ↔ ∃ n ∈ c.nodes, n.id = x ∧ P n
  /-- The nodes are those with the property. -/
  nodes : ∀ n, v.contains n = true ↔ n ∈ c.nodes ∧ P n
  /-- Between two nodes of the graph there is an edge if both have the property and the graph
      has one. -/
  edges : ∀ m ∈ c.nodes, ∀ n ∈ c.nodes,
    (v.hasEdge m.id n.id = true ↔ P m ∧ P n ∧ c.hasEdge m n = true)
  /-- There are no edges between other numbers. -/
  ends : ∀ x y, v.hasEdge x y = true → x ∈ v.keys ∧ y ∈ v.keys
  /-- The successors are the ends of the edges. -/
  succs : ∀ x y, y ∈ v.succs x ↔ v.hasEdge x y = true
  /-- The predecessors are their beginnings. -/
  preds : ∀ x y, x ∈ v.preds y ↔ v.hasEdge x y = true

/-- The view is the part of `w` on its own numbers. -/
structure IsPart (v w : View) : Prop where
  /-- The other view has its numbers. -/
  keys : v.keys ⊆ w.keys
  /-- The nodes are those of the other view. -/
  nodes : ∀ x ∈ v.keys, v.node? x = w.node? x
  /-- It has every edge of the other view between its numbers, and no other edge. -/
  edges : ∀ x y, v.hasEdge x y = true ↔ x ∈ v.keys ∧ y ∈ v.keys ∧ w.hasEdge x y = true

theorem node?_ofGraph_eq_some_iff {g : Graph} (hg : g.WellFormed) (x : NodeId) (n : Node) :
    (ofGraph g).node? x = some n ↔ n ∈ g.nodes ∧ n.id = x := by
  constructor
  · intro hn
    by_cases hx : x ∈ g.nodes.map Node.id
    · rcases List.mem_map.1 hx with ⟨m, hm, hid⟩
      rw [← hid, node?_ofGraph hg m hm, Option.some.injEq] at hn
      rw [← hn]
      exact ⟨hm, hid⟩
    · rw [node?_ofGraph_of_not_mem x hx] at hn
      cases hn
  · rintro ⟨hn, rfl⟩
    exact node?_ofGraph hg n hn

section Induced

variable {g : Graph} (hg : g.WellFormed) {keep : Node → Bool} {P : Node → Prop}
  (hP : ∀ n ∈ g.nodes, keep n = true ↔ P n)
include hg hP

theorem mem_keys_induced_ofGraph (x : NodeId) :
    x ∈ ((ofGraph g).induced keep).keys ↔ ∃ n ∈ g.nodes, n.id = x ∧ P n := by
  rw [mem_keys_induced (ofGraph_wellFormed hg)]
  constructor
  · rintro ⟨n, hn, hk⟩
    rcases (node?_ofGraph_eq_some_iff hg x n).1 hn with ⟨hmem, hid⟩
    exact ⟨n, hmem, hid, (hP n hmem).1 hk⟩
  · rintro ⟨n, hmem, hid, hp⟩
    exact ⟨n, (node?_ofGraph_eq_some_iff hg x n).2 ⟨hmem, hid⟩, (hP n hmem).2 hp⟩

theorem id_mem_keys_induced_ofGraph (n : Node) (hn : n ∈ g.nodes) :
    n.id ∈ ((ofGraph g).induced keep).keys ↔ P n := by
  rw [mem_keys_induced_ofGraph hg hP]
  constructor
  · rintro ⟨m, hm, hid, hp⟩
    rw [← hg.eq_of_id_eq m n hm hn hid]
    exact hp
  · intro hp
    exact ⟨n, hn, rfl, hp⟩

theorem contains_induced_ofGraph (n : Node) :
    ((ofGraph g).induced keep).contains n = true ↔ n ∈ g.nodes ∧ P n := by
  have hkey := id_mem_keys_induced_ofGraph hg hP n
  unfold contains
  split
  · -- A node without a number is in neither.
    rename_i hid
    refine ⟨fun hc => (Bool.false_ne_true hc).elim, fun hc => ?_⟩
    rw [hg.id?_eq n hc.1] at hid
    cases hid
  · rename_i id hid
    have hnid : n.id = id := by rw [Node.id, hid, Option.getD_some]
    rw [beq_iff_eq, induced, node?_restrict]
    constructor
    · intro hn
      split at hn
      · rename_i hx
        have hmem := ((node?_ofGraph_eq_some_iff hg id n).1 hn).1
        rw [← hnid] at hx
        exact ⟨hmem, (hkey hmem).1 hx⟩
      · cases hn
    · rintro ⟨hmem, hp⟩
      have hx := (hkey hmem).2 hp
      rw [hnid] at hx
      exact (if_pos hx).trans ((node?_ofGraph_eq_some_iff hg id n).2 ⟨hmem, hnid⟩)

/-- A test that decides a property on the nodes of a graph cuts out the part on that property. -/
theorem induced_isInduced : ((ofGraph g).induced keep).IsInduced g.answers P := by
  have hv : ((ofGraph g).induced keep).WellFormed := restrict_wellFormed _ (ofGraph_wellFormed hg)
  have hkey := id_mem_keys_induced_ofGraph hg hP
  constructor
  case sorted => exact hv.sorted
  case keys => exact mem_keys_induced_ofGraph hg hP
  case nodes => exact contains_induced_ofGraph hg hP
  case edges =>
    intro m hm n hn
    rw [induced, hasEdge_restrict, hasEdge_ofGraph hg m n hm hn]
    exact and_congr (hkey m hm) (and_congr (hkey n hn) Iff.rfl)
  case ends => exact fun x y he => ⟨hv.starts x y he, hv.ends x y he⟩
  case succs => exact mem_succs_iff _
  case preds => exact hv.reverse

end Induced

/-- A node with the property is found under its number. -/
theorem IsInduced.node?_eq {v : View} {g : Graph} {P : Node → Prop} (hg : g.WellFormed)
    (hv : v.IsInduced g.answers P) (n : Node) (hn : n ∈ g.nodes) (hp : P n) : v.node? n.id = some n := by
  have hc := (hv.nodes n).2 ⟨hn, hp⟩
  rw [contains, hg.id?_eq n hn] at hc
  exact beq_iff_eq.1 hc

/-- The nodes that the view lists are those with the property. -/
theorem IsInduced.mem_callNodes {v : View} {g : Graph} {P : Node → Prop} (hg : g.WellFormed)
    (hv : v.IsInduced g.answers P) (n : Node) : n ∈ v.callNodes ↔ n ∈ g.nodes ∧ P n := by
  rw [callNodes, List.mem_filterMap]
  constructor
  · rintro ⟨x, hx, hget⟩
    -- The number is that of some node with the property, and a number has one node.
    rcases (hv.keys x).1 hx with ⟨m, hm, rfl, hp⟩
    rw [hv.node?_eq hg m hm hp, Option.some.injEq] at hget
    rw [← hget]
    exact ⟨hm, hp⟩
  · rintro ⟨hn, hp⟩
    exact ⟨n.id, (hv.keys n.id).2 ⟨n, hn, rfl, hp⟩, hv.node?_eq hg n hn hp⟩

/-- The part on a stronger property is a part of the part on the weaker one. -/
theorem IsInduced.isPart {v w : View} {g : Graph} {P Q : Node → Prop} (hg : g.WellFormed)
    (hv : v.IsInduced g.answers P) (hw : w.IsInduced g.answers Q) (hPQ : ∀ n ∈ g.nodes, P n → Q n) :
    v.IsPart w := by
  have hsub : v.keys ⊆ w.keys := by
    intro x hx
    rcases (hv.keys x).1 hx with ⟨n, hn, hid, hp⟩
    exact (hw.keys x).2 ⟨n, hn, hid, hPQ n hn hp⟩
  refine ⟨hsub, ?_, ?_⟩
  · intro x hx
    rcases (hv.keys x).1 hx with ⟨n, hn, rfl, hp⟩
    rw [hv.node?_eq hg n hn hp, hw.node?_eq hg n hn (hPQ n hn hp)]
  · intro x y
    constructor
    · intro he
      rcases hv.ends x y he with ⟨hx, hy⟩
      rcases (hv.keys x).1 hx with ⟨m, hm, rfl, hpm⟩
      rcases (hv.keys y).1 hy with ⟨n, hn, rfl, hpn⟩
      have hgraph := ((hv.edges m hm n hn).1 he).2.2
      exact ⟨hx, hy, (hw.edges m hm n hn).2 ⟨hPQ m hm hpm, hPQ n hn hpn, hgraph⟩⟩
    · rintro ⟨hx, hy, he⟩
      rcases (hv.keys x).1 hx with ⟨m, hm, rfl, hpm⟩
      rcases (hv.keys y).1 hy with ⟨n, hn, rfl, hpn⟩
      exact (hv.edges m hm n hn).2 ⟨hpm, hpn, ((hw.edges m hm n hn).1 he).2.2⟩

end View

namespace Slices

/-- The node belongs to the application, calls a node of it or is called by one. -/
def Neighbour (c : CallGraph) (isApp : Node → Bool) (n : Node) : Prop :=
  isApp n = true ∨
    ∃ m ∈ c.nodes, isApp m = true ∧ (c.hasEdge m n = true ∨ c.hasEdge n m = true)

/-- The node is an end of an edge that enters the application. -/
def Crossing (c : CallGraph) (isApp : Node → Bool) (n : Node) : Prop :=
  ∃ a ∈ c.nodes, ∃ b ∈ c.nodes, c.hasEdge a b = true ∧ isApp a = false ∧ isApp b = true ∧
    (n = a ∨ n = b)

theorem any_preds_iff (g : Graph) (p : Node → Bool) (n : Node) :
    (g.preds n).any p = true ↔ ∃ m ∈ g.nodes, p m = true ∧ g.hasEdge m n = true := by
  rw [List.any_eq_true]
  exact exists_congr (fun m => by rw [Graph.mem_preds_iff, and_right_comm, and_assoc])

theorem any_succs_iff (g : Graph) (p : Node → Bool) (n : Node) :
    (g.succs n).any p = true ↔ ∃ m ∈ g.nodes, p m = true ∧ g.hasEdge n m = true := by
  rw [List.any_eq_true]
  exact exists_congr (fun m => by rw [Graph.mem_succs_iff, and_right_comm, and_assoc])

/-- The test for the one-hop slice. -/
theorem neighbour_iff (g : Graph) (isApp : Node → Bool) (n : Node) :
    (isApp n || (g.preds n).any isApp || (g.succs n).any isApp) = true ↔
      Neighbour g.answers isApp n := by
  rw [Bool.or_eq_true, Bool.or_eq_true, any_preds_iff, any_succs_iff, or_assoc, Neighbour,
    ← exists_or]
  simp only [← and_or_left]
  exact Iff.rfl

/-- The test for the boundary asks for callers of nodes of the application and for callees of the
    others. Either way it finds the edge that enters. -/
theorem crossing_iff (g : Graph) (isApp : Node → Bool) (n : Node) (hn : n ∈ g.nodes) :
    (if isApp n then (g.preds n).any (fun p => !isApp p) else (g.succs n).any isApp) = true ↔
      Crossing g.answers isApp n := by
  by_cases ha : isApp n = true
  · rw [if_pos ha, any_preds_iff]
    constructor
    · rintro ⟨m, hm, hout, he⟩
      exact ⟨m, hm, n, hn, he, by simpa using hout, ha, Or.inr rfl⟩
    · rintro ⟨a, hma, b, _, he, hout, _, rfl | rfl⟩
      · rw [hout] at ha
        cases ha
      · exact ⟨a, hma, by simp [hout], he⟩
  · rw [if_neg ha, any_succs_iff]
    constructor
    · rintro ⟨m, hm, hin, he⟩
      exact ⟨n, hn, m, hm, he, by simpa using ha, hin, Or.inl rfl⟩
    · rintro ⟨a, _, b, hmb, he, _, hin, rfl | rfl⟩
      · exact ⟨b, hmb, hin, he⟩
      · exact absurd hin ha

/-- Both ends of an edge that enters the application are one hop away from it. -/
theorem neighbour_of_crossing (c : CallGraph) (isApp : Node → Bool) (n : Node)
    (hc : Crossing c isApp n) : Neighbour c isApp n := by
  rcases hc with ⟨a, ha, b, hb, he, _, hin, rfl | rfl⟩
  · exact Or.inr ⟨b, hb, hin, Or.inr he⟩
  · exact Or.inl hin

theorem application_isInduced (g : Graph) (hg : g.WellFormed) (isApp : Node → Bool) :
    (build g.answers isApp).application.IsInduced g.answers
      (fun n => isApp n = true ∨ n.isSynthetic = true) :=
  View.induced_isInduced hg (fun _ _ => Bool.or_eq_true _ _ ▸ Iff.rfl)

theorem oneHop_isInduced (g : Graph) (hg : g.WellFormed) (isApp : Node → Bool) :
    (build g.answers isApp).oneHop.IsInduced g.answers (Neighbour g.answers isApp) :=
  View.induced_isInduced hg (fun n _ => neighbour_iff g isApp n)

theorem boundary_isInduced (g : Graph) (hg : g.WellFormed) (isApp : Node → Bool) :
    (build g.answers isApp).boundary.IsInduced g.answers (Crossing g.answers isApp) :=
  View.induced_isInduced hg (fun n hn => crossing_iff g isApp n hn)

/-- The slices are the parts of the call graph on the nodes that they are named for. -/
structure Exact (s : Slices) (c : CallGraph) (isApp : Node → Bool) : Prop where
  /-- The application and the synthetic nodes. -/
  application : s.application.IsInduced c (fun n => isApp n = true ∨ n.isSynthetic = true)
  /-- The application with its callers and callees. -/
  oneHop : s.oneHop.IsInduced c (Neighbour c isApp)
  /-- It has every edge at a node of the application. -/
  touching : ∀ m ∈ c.nodes, ∀ n ∈ c.nodes, c.hasEdge m n = true →
    (isApp m = true ∨ isApp n = true) → s.oneHop.hasEdge m.id n.id = true
  /-- The ends of the edges that enter the application. -/
  boundary : s.boundary.IsInduced c (Crossing c isApp)
  /-- It has every edge that enters the application. -/
  entering : ∀ m ∈ c.nodes, ∀ n ∈ c.nodes, c.hasEdge m n = true → isApp m = false →
    isApp n = true → s.boundary.hasEdge m.id n.id = true
  /-- The boundary is a part of the one-hop slice. -/
  part : s.boundary.IsPart s.oneHop

theorem exact_of_wellFormed (g : Graph) (hg : g.WellFormed) (isApp : Node → Bool) :
    (build g.answers isApp).Exact g.answers isApp := by
  have honeHop := oneHop_isInduced g hg isApp
  have hboundary := boundary_isInduced g hg isApp
  constructor
  case application => exact application_isInduced g hg isApp
  case oneHop => exact honeHop
  case touching =>
    intro m hm n hn he happ
    refine (honeHop.edges m hm n hn).2 ⟨?_, ?_, he⟩
    · rcases happ with ha | ha
      · exact Or.inl ha
      · exact Or.inr ⟨n, hn, ha, Or.inr he⟩
    · rcases happ with ha | ha
      · exact Or.inr ⟨m, hm, ha, Or.inl he⟩
      · exact Or.inl ha
  case boundary => exact hboundary
  case entering =>
    intro m hm n hn he hout hin
    exact (hboundary.edges m hm n hn).2
      ⟨⟨m, hm, n, hn, he, hout, hin, Or.inl rfl⟩, ⟨m, hm, n, hn, he, hout, hin, Or.inr rfl⟩, he⟩
  case part => exact hboundary.isPart hg honeHop (fun n _ => neighbour_of_crossing g.answers isApp n)

/-- Whatever was done to a call graph, no callee and no caller is missing from its indexes, the
    indexes and the edges agree, and the slices that are cut by them are what they are called. -/
theorem build_exact (acts : List Graph.Action) (isApp : Node → Bool) :
    (∀ id, none ∉ (IndexedGraph.run acts).succsAt id ∧
      none ∉ (IndexedGraph.run acts).predsAt id) ∧
    (IndexedGraph.run acts).answers.Coherent ∧
    (build (IndexedGraph.run acts).answers isApp).Exact (IndexedGraph.run acts).answers isApp := by
  have hr := IndexedGraph.run_refines acts
  have hw := Graph.run_consistent acts
  have hformed := Graph.built_wellFormed _ hw.built
  refine ⟨fun id => ⟨?_, ?_⟩, ?_, ?_⟩
  · exact hr.none_not_mem_collect _ (hr.exists_of_mem_callees hw id)
  · exact hr.none_not_mem_collect _ (hr.exists_of_mem_callers hw id)
  · rw [IndexedGraph.answers_run]
    exact hformed.answers_coherent
  · rw [IndexedGraph.answers_run]
    exact exact_of_wellFormed _ hformed isApp

/-- In the sample the boundary is cut by the one edge that enters the application. -/
theorem build_exact_callback :
    (build (IndexedGraph.run Graph.callbackHistory).answers Node.isApplication).boundary.hasEdge 0 1
      = true ∧
    (build (IndexedGraph.run Graph.callbackHistory).answers Node.isApplication).boundary.IsPart
      (build (IndexedGraph.run Graph.callbackHistory).answers Node.isApplication).oneHop := by
  rcases build_exact Graph.callbackHistory Node.isApplication with ⟨_, _, h⟩
  have hanswers : (IndexedGraph.run Graph.callbackHistory).answers = Graph.callback.answers := by
    rw [IndexedGraph.answers_run, Graph.callbackHistory_run]
  rw [hanswers] at h ⊢
  refine ⟨?_, h.part⟩
  exact h.entering _ (List.get_mem Graph.callback.nodes ⟨0, by decide⟩) _
    (List.get_mem Graph.callback.nodes ⟨1, by decide⟩) rfl rfl rfl

end Slices

end TaintSeed
