import Mathlib.Data.List.Forall2
import TaintSeed.Model.Program
import TaintSeed.Proofs.CallGraph.Lookup

/-!
# The Call Graph of a Model

A model lists its nodes, speaks of them by labels and lists its edges as pairs
of labels. Placing the nodes turns positions into numbers: a node is refused
when its method is in the graph in its context, so every node that is accepted
is a new one, and the node at a position gets that position as its number. No
label is used twice, so a label stands for one position and hence for one
number, and an edge between labels is an edge between numbers.

`Assembly` is what holds when some of the nodes have been placed and some of
the edges drawn. One more node keeps it, and so does one more edge; the graph
of a model is what is assembled from all its nodes and edges.

## Main definitions

* `Model.Node.Describes`: A node of a call graph is as the model says.
* `Model.LabelledAt`: A label stands for a number.
* `Model.Assembly`: What the graph and the labels are after some nodes and edges.

## Theorems

* `Model.LabelledAt.unique`: A label stands for one number.
* `Model.Assembly.labelledAt_of_find?`: Looking up a label.
* `Model.Assembly.addNode`, `Model.Assembly.addEdge`: One more node, one more edge.
* `Model.graph_assembly`: The graph of a model is assembled from its nodes and edges.
* `Model.Assembly.hasEdge_iff`: The edges are the listed pairs of labels.
* `Model.Assembly.entriesOf_eq`: Where the execution of a node starts.
-/

namespace TaintSeed

namespace Model

/-- The node of the call graph is as the model says. Its number is not part of the model. -/
structure Node.Describes (n : Node) (x : TaintSeed.Node) : Prop where
  method : x.method = ⟨n.method.package, n.method.owner, n.method.name, n.method.descriptor⟩
  context : x.context = n.context
  loader : loader? n.loader = some x.loader
  isSynthetic : x.isSynthetic = n.isSynthetic
  params : x.params = n.params
  paramTypes : x.paramTypes = n.paramTypes.map TypeRef.parse
  blocks : x.blocks = n.blocks

/-- The label is that of the node at the position, which is its number. -/
def LabelledAt (ns : List Node) (label : String) (i : Nat) : Prop :=
  ∃ n, ns[i]? = some n ∧ n.label = label

theorem LabelledAt.unique {ns : List Node} (hn : (ns.map Node.label).Nodup) {label : String}
    {i j : Nat} (hi : LabelledAt ns label i) (hj : LabelledAt ns label j) : i = j := by
  rcases hi with ⟨a, ha, rfl⟩
  rcases hj with ⟨b, hb, hlabel⟩
  have hlt : i < (ns.map Node.label).length := by
    rw [List.length_map]
    exact (List.getElem?_eq_some_iff.1 ha).1
  have hsame : (ns.map Node.label)[i]? = (ns.map Node.label)[j]? := by
    rw [List.getElem?_map, List.getElem?_map, ha, hb, Option.map_some, Option.map_some, hlabel]
  exact (List.getElem?_inj hlt hn).1 hsame

/-- The graph and the labels after the nodes `ns` have been placed and the edges `es` drawn. -/
structure Assembly (ns : List Node) (es : List (List String)) (g : Graph) (labels : Labels) :
    Prop where
  built : g.Built
  describes : List.Forall₂ Node.Describes ns g.nodes
  labels_eq : labels = (ns.zip g.nodes).map (fun e => (e.1.label, e.2))
  distinct : (ns.map Node.label).Nodup
  edges : ∀ i j : Nat, ((i : NodeId), (j : NodeId)) ∈ g.edges ↔
    ∃ a b, [a, b] ∈ es ∧ LabelledAt ns a i ∧ LabelledAt ns b j
  entries : ∀ i : Nat, g.entries.get? (i : NodeId) =
    ns[i]?.bind (fun n => if n.entries = [] then none else some n.entries)
  roots : g.roots = ((ns.zip g.nodes).filter (fun e => e.1.isRoot)).map Prod.snd

namespace Assembly

variable {ns : List Node} {es : List (List String)} {g : Graph} {labels : Labels}

theorem empty : Assembly [] [] .empty [] where
  built := .empty
  describes := .nil
  labels_eq := rfl
  distinct := List.nodup_nil
  edges := by simp [Graph.empty]
  entries := fun _ => rfl
  roots := rfl

theorem wellFormed (ha : Assembly ns es g labels) : g.WellFormed :=
  Graph.built_wellFormed g ha.built

theorem length_eq (ha : Assembly ns es g labels) : ns.length = g.nodes.length :=
  ha.describes.length_eq

/-- The node at a position is the one that the model describes there. -/
theorem describes_at (ha : Assembly ns es g labels) (i : Nat) (n : Node) (hn : ns[i]? = some n) :
    ∃ x, g.nodes[i]? = some x ∧ n.Describes x := by
  rcases List.getElem?_eq_some_iff.1 hn with ⟨hi, rfl⟩
  have hi' : i < g.nodes.length := ha.length_eq ▸ hi
  exact ⟨g.nodes[i], List.getElem?_eq_getElem hi', ha.describes.get hi hi'⟩

/-- The node at a position reads as that number. -/
theorem id_getElem (ha : Assembly ns es g labels) (i : Nat) (x : TaintSeed.Node)
    (hx : g.nodes[i]? = some x) : x.id = (i : NodeId) := by
  simp only [TaintSeed.Node.id, ha.wellFormed.id?_getElem i x hx, Option.getD_some]

/-- A label that is not found is new. -/
theorem not_mem_of_find?_eq_none (ha : Assembly ns es g labels) (label : String)
    (hnone : labels.find? label = none) : label ∉ ns.map Node.label := by
  intro hmem
  rcases List.mem_map.1 hmem with ⟨n, hn, rfl⟩
  rcases List.getElem?_of_mem hn with ⟨i, hi⟩
  rcases ha.describes_at i n hi with ⟨x, hx, _⟩
  have hpair : (ns.zip g.nodes)[i]? = some (n, x) := List.getElem?_zip_eq_some.2 ⟨hi, hx⟩
  have hlisted : (n.label, x) ∈ labels :=
    ha.labels_eq ▸ List.mem_map_of_mem (List.mem_of_getElem? hpair)
  have hno := List.find?_eq_none.1 (Option.map_eq_none_iff.1 hnone) _ hlisted
  simp at hno

/-- A label that is found is that of a node of the model, and gives its number. -/
theorem labelledAt_of_find? (ha : Assembly ns es g labels) (label : String) (x : TaintSeed.Node)
    (hfind : labels.find? label = some x) :
    ∃ i : Nat, LabelledAt ns label i ∧ x.id = (i : NodeId) := by
  rcases Option.map_eq_some_iff.1 hfind with ⟨e, he, rfl⟩
  have hlabel : e.1 = label := by simpa using List.find?_some he
  have hmem : e ∈ labels := List.mem_of_find?_eq_some he
  rw [ha.labels_eq] at hmem
  rcases List.mem_map.1 hmem with ⟨⟨n, x⟩, hpair, rfl⟩
  rcases List.getElem?_of_mem hpair with ⟨i, hi⟩
  rw [List.getElem?_zip_eq_some] at hi
  exact ⟨i, ⟨n, hi.1, hlabel⟩, ha.id_getElem i x hi.2⟩

end Assembly

/-! ## Placing nodes -/

/-- The graph with one more node behind the others. -/
def placedAt (g : Graph) (n : Node) (placed : TaintSeed.Node) : Graph :=
  { g with
    nodes := g.nodes ++ [placed]
    entries := if n.entries = [] then g.entries else g.entries.set placed.id n.entries
    roots := if n.isRoot then g.roots ++ [placed] else g.roots }

/-- What it takes to place a node, and what is there afterwards. -/
theorem addNode_eq_ok (g g' : Graph) (labels labels' : Labels) (n : Node)
    (h : addNode g labels n = .ok (g', labels')) :
    ∃ placed, n.Describes placed ∧ placed.id? = some (g.size : NodeId) ∧
      labels.find? n.label = none ∧ (g.Built → g'.Built) ∧ g' = placedAt g n placed ∧
      labels' = labels ++ [(n.label, placed)] := by
  unfold addNode at h
  split at h
  · cases h
  split at h
  · cases h
  rename_i hfresh
  cases hloader : loader? n.loader with
  | none =>
      rw [hloader] at h
      cases h
  | some loader =>
      simp only [hloader] at h
      split at h
      · cases h
      cases hfind : g.find? (n.described loader).method (n.described loader).context with
      | some there =>
          rw [hfind] at h
          cases h
      | none =>
          simp only [hfind] at h
          -- Nothing with this method and context is there, so the node is placed as a new one.
          have hplace := (Graph.place_cases g (n.described loader)).resolve_left
            (fun ⟨there, hmem, hkey, _⟩ => (Graph.find?_eq_none_iff g _).1 hfind there hmem hkey)
          have hbuilt : g.Built → (g.place (n.described loader)).1.Built :=
            fun hg => hg.place (n.described loader)
          rw [hplace.2] at h hbuilt
          cases h
          refine ⟨{ n.described loader with id? := some (g.size : NodeId) },
            ⟨rfl, rfl, hloader, rfl, rfl, rfl, rfl⟩, rfl, by simpa using hfresh, ?_, ?_, rfl⟩
          · intro hg
            have hplaced := hbuilt hg
            split
            · split
              · exact hplaced.addRoot _
              · exact (hplaced.setEntries _ _).addRoot _
            · split
              · exact hplaced
              · exact hplaced.setEntries _ _
          · unfold placedAt
            cases hroot : n.isRoot <;> cases hentries : n.entries <;> rfl

namespace Assembly

variable {ns : List Node} {es : List (List String)} {g : Graph} {labels : Labels}

/-- The entries after one more node: its own are set under its number, unless it lists none. -/
theorem entries_placedAt (ha : Assembly ns es g labels) (n : Node) (placed : TaintSeed.Node)
    (hid : placed.id = (ns.length : NodeId)) (i : Nat) :
    (placedAt g n placed).entries.get? (i : NodeId) =
      (ns ++ [n])[i]?.bind (fun n => if n.entries = [] then none else some n.entries) := by
  have hbeyond : g.entries.get? (ns.length : NodeId) = none := by
    rw [ha.entries, List.getElem?_eq_none (Nat.le_refl _)]
    rfl
  simp only [placedAt, hid]
  by_cases hi : ns.length = i
  · subst hi
    rw [List.getElem?_concat_length, Option.bind_some]
    by_cases hentries : n.entries = []
    · rw [if_pos hentries, if_pos hentries, hbeyond]
    · rw [if_neg hentries, if_neg hentries, Table.get?_set, if_pos rfl]
  · -- Another number: neither the list nor the table has changed there.
    have hold : (ns ++ [n])[i]? = ns[i]? := by
      by_cases hlt : i < ns.length
      · exact List.getElem?_append_left hlt
      · rw [List.getElem?_eq_none (by simp; omega), List.getElem?_eq_none (by omega)]
    have hne : ¬ ((ns.length : NodeId) = (i : NodeId)) := fun hc => hi (Int.ofNat.inj hc)
    rw [hold, ← ha.entries i]
    by_cases hentries : n.entries = []
    · rw [if_pos hentries]
    · rw [if_neg hentries, Table.get?_set, if_neg hne]

/-- One more node is placed behind the others. Nodes come before edges. -/
theorem addNode (ha : Assembly ns [] g labels) (n : Node) (g' : Graph) (labels' : Labels)
    (h : addNode g labels n = .ok (g', labels')) : Assembly (ns ++ [n]) [] g' labels' := by
  rcases addNode_eq_ok g g' labels labels' n h with
    ⟨placed, hdescribes, hid?, hnone, hbuilt, rfl, rfl⟩
  have hid : placed.id = (ns.length : NodeId) := by
    rw [TaintSeed.Node.id, hid?, ha.length_eq]
    rfl
  have hzip : (ns ++ [n]).zip (placedAt g n placed).nodes = ns.zip g.nodes ++ [(n, placed)] :=
    List.zip_append ha.length_eq
  constructor
  case built => exact hbuilt ha.built
  case describes => exact List.rel_append ha.describes (.cons hdescribes .nil)
  case labels_eq =>
    rw [hzip, List.map_append, ← ha.labels_eq]
    rfl
  case distinct =>
    rw [List.map_append, List.nodup_append]
    refine ⟨ha.distinct, List.nodup_singleton _, ?_⟩
    intro a hold b hb hab
    rw [List.map_singleton, List.mem_singleton] at hb
    exact ha.not_mem_of_find?_eq_none n.label hnone (hb ▸ hab ▸ hold)
  case edges =>
    intro i j
    refine (ha.edges i j).trans ?_
    simp
  case entries => exact ha.entries_placedAt n placed hid
  case roots =>
    rw [hzip, List.filter_append, List.map_append, ← ha.roots]
    unfold placedAt
    cases hroot : n.isRoot <;> simp [hroot]

end Assembly

/-- Placing a list of nodes, by induction on what is left of it. -/
theorem addNodes_assembly (done ns : List Node) (g g' : Graph) (labels labels' : Labels)
    (ha : Assembly done [] g labels) (h : addNodes ns g labels = .ok (g', labels')) :
    Assembly (done ++ ns) [] g' labels' := by
  induction ns generalizing done g labels with
  | nil =>
      cases h
      rw [List.append_nil]
      exact ha
  | cons n ns ih =>
      rw [addNodes] at h
      cases hadd : addNode g labels n with
      | error e =>
          rw [hadd] at h
          cases h
      | ok r =>
          rw [hadd] at h
          have hrest := ih (done ++ [n]) r.1 r.2 (ha.addNode n r.1 r.2 hadd) h
          rw [List.append_assoc] at hrest
          exact hrest

/-! ## Drawing edges -/

theorem addEdge_eq_ok (labels : Labels) (g g' : Graph) (edge : List String)
    (h : addEdge labels g edge = .ok g') :
    ∃ a b x y, edge = [a, b] ∧ labels.find? a = some x ∧ labels.find? b = some y ∧
      g.connect x y = .ok g' := by
  unfold addEdge at h
  split at h
  · split at h
    · rename_i a b _ _ x y hx hy
      split at h
      · cases h
      · rename_i hdrawn
        cases h
        exact ⟨a, b, x, y, rfl, hx, hy, hdrawn⟩
    · cases h
  · cases h

/-- One more edge is drawn, between the numbers of its labels. -/
theorem Assembly.addEdge {ns : List Node} {es : List (List String)} {g : Graph} {labels : Labels}
    (ha : Assembly ns es g labels) (edge : List String) (g' : Graph)
    (h : addEdge labels g edge = .ok g') : Assembly ns (es ++ [edge]) g' labels := by
  rcases addEdge_eq_ok labels g g' edge h with ⟨a, b, x, y, rfl, hx, hy, hdrawn⟩
  have hbuilt : g'.Built := ha.built.connect x y hdrawn
  obtain rfl := Graph.eq_of_connect g g' x y hdrawn
  refine ⟨hbuilt, ha.describes, ha.labels_eq, ha.distinct, fun i j => ?_, ha.entries, ha.roots⟩
  rcases ha.labelledAt_of_find? a x hx with ⟨k, hk, hkid⟩
  rcases ha.labelledAt_of_find? b y hy with ⟨l, hl, hlid⟩
  have hnew : ((i : NodeId), (j : NodeId)) = (x.id, y.id) ↔
      LabelledAt ns a i ∧ LabelledAt ns b j := by
    rw [hkid, hlid, Prod.mk.injEq, Int.ofNat_inj, Int.ofNat_inj]
    constructor
    · rintro ⟨rfl, rfl⟩
      exact ⟨hk, hl⟩
    · rintro ⟨hi, hj⟩
      exact ⟨hi.unique ha.distinct hk, hj.unique ha.distinct hl⟩
  rw [DistinctList.mem_insert, ha.edges, hnew]
  simp only [List.mem_append, List.mem_singleton, List.cons.injEq, and_true]
  grind

/-- Drawing a list of edges, by induction on what is left of it. -/
theorem addEdges_assembly (ns : List Node) (done es : List (List String)) (g g' : Graph)
    (labels : Labels) (ha : Assembly ns done g labels) (h : addEdges labels es g = .ok g') :
    Assembly ns (done ++ es) g' labels := by
  induction es generalizing done g with
  | nil =>
      cases h
      rw [List.append_nil]
      exact ha
  | cons e es ih =>
      rw [addEdges] at h
      cases hadd : addEdge labels g e with
      | error e' =>
          rw [hadd] at h
          cases h
      | ok mid =>
          rw [hadd] at h
          have hrest := ih (done ++ [e]) mid (ha.addEdge e mid hadd) h
          rw [List.append_assoc] at hrest
          exact hrest

/-- The graph of a model is assembled from its nodes and edges. -/
theorem graph_assembly (m : Model) (g : Graph) (labels : Labels) (h : m.graph = .ok (g, labels)) :
    Assembly m.nodes m.edges g labels := by
  unfold graph at h
  split at h
  · cases h
  · rename_i placed labels' hnodes
    split at h
    · cases h
    · rename_i drawn hedges
      cases h
      have hplaced : Assembly m.nodes [] placed labels :=
        addNodes_assembly [] m.nodes .empty placed [] labels .empty hnodes
      exact addEdges_assembly m.nodes [] m.edges placed g labels hplaced hedges

/-! ## Reading the graph -/

namespace Assembly

variable {ns : List Node} {es : List (List String)} {g : Graph} {labels : Labels}

/-- There is an edge where the labels of its ends are listed as a pair. -/
theorem hasEdge_iff (ha : Assembly ns es g labels) (i j : Nat) (a b : Node)
    (x y : TaintSeed.Node) (hi : ns[i]? = some a) (hj : ns[j]? = some b)
    (hx : g.nodes[i]? = some x) (hy : g.nodes[j]? = some y) :
    g.hasEdge x y = true ↔ [a.label, b.label] ∈ es := by
  rw [Graph.hasEdge, DistinctList.contains_iff, ha.id_getElem i x hx, ha.id_getElem j y hy,
    ha.edges]
  constructor
  · rintro ⟨_, _, hmem, ⟨a', hi', rfl⟩, ⟨b', hj', rfl⟩⟩
    cases hi.symm.trans hi'
    cases hj.symm.trans hj'
    exact hmem
  · intro hmem
    exact ⟨a.label, b.label, hmem, ⟨a, hi, rfl⟩, ⟨b, hj, rfl⟩⟩

/-- A node starts at its listed entries; where none is listed, at its first block if it has one. -/
theorem entriesOf_eq (ha : Assembly ns es g labels) (i : Nat) (n : Node) (x : TaintSeed.Node)
    (hi : ns[i]? = some n) (hx : g.nodes[i]? = some x) :
    g.entriesOf x =
      if n.entries ≠ [] then n.entries.map (fun b => ⟨i, b⟩)
      else if 0 < n.blocks then [⟨i, 0⟩] else [] := by
  have hblocks : x.blocks = n.blocks := by
    rcases ha.describes_at i n hi with ⟨x', hx', hdescribes⟩
    cases hx.symm.trans hx'
    exact hdescribes.blocks
  have hget : g.entries.get? (i : NodeId) = if n.entries = [] then none else some n.entries := by
    rw [ha.entries, hi, Option.bind_some]
  unfold Graph.entriesOf TaintSeed.Node.entriesFrom
  rw [ha.id_getElem i x hx, hget, hblocks]
  by_cases hentries : n.entries = []
  · rw [if_pos hentries, if_neg (not_not_intro hentries)]
    by_cases hpos : 0 < n.blocks
    · rw [if_pos hpos, if_neg (by omega)]
    · rw [if_neg hpos, if_pos (by omega)]
  · rw [if_neg hentries, if_pos hentries]

end Assembly

end Model

end TaintSeed
