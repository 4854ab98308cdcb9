import TaintSeed.Command.Views
import TaintSeed.Proofs.CallGraph.History
import TaintSeed.Proofs.View.Slices
import TaintSeed.Proofs.View.Stats

/-!
# A Printed View Shows Its Own Edges

Under each node of a view the command prints callees, and above all of them a
count of edges. The two come from different places. The callees are those of
the call graph, of which the ones outside the view are left out; the count is
made from the tables of the view, which were copied from the graph and then
cut. A reader takes the lines for the edges that were counted, and so they are.

`listedCalls` are the lines as pairs of nodes, in the order in which they are
printed, and `viewText_eq` says that the printed text is made from them: under
a node stand the listed calls that start from it, and nothing else is printed
about calls. What the list has to do with the view is `ListsEdges`. The nodes of
a view come by number, and so do the callees of a node, so the pairs come in
lexicographic order, and none comes twice.

## Main definitions

* `Views.listedCalls`: The calls that are printed.
* `Views.layout`: The text of a view, from what it shows.
* `Views.ListsEdges`: Some calls are the edges of a view, in order.

## Theorems

* `Views.viewText_eq`: The printed text shows the listed calls.
* `Views.listedCalls_listsEdges`: The listed calls are the edges of the view.
* `Views.ListsEdges.length_eq`: A list of the edges is as long as the view counts.
* `Views.listedCalls_exact`: Each of the three views is printed with its own edges.
-/

namespace TaintSeed.Command.Views

/-- The calls that are printed: a node of the view with each of its callees in the view. -/
def listedCalls (g : Graph) (v : View) : List (Node × Node) :=
  v.callNodes.flatMap (fun n => ((g.succs n).filter v.contains).map (fun k => (n, k)))

/-- The text of a view: a line with its figures, a line for each node with a line for each call
    that starts from it, and a line for each cycle. -/
def layout (title : String) (figures : View.Stats) (nodes : List Node)
    (calls : List (Node × Node)) (cycles : List (List Node)) : String :=
  title ++ " view: " ++ figures.text ++ "\n" ++
    String.join (nodes.map (fun n => "  " ++ n.text ++ "\n" ++
      String.join ((calls.filter (fun c => c.1 == n)).map
        (fun c => "    -> " ++ c.2.text ++ "\n")))) ++
    String.join (cycles.map cycleText)

/-- The calls are the edges of the view, each once, by the caller and then by the callee. -/
structure ListsEdges (v : View) (calls : List (Node × Node)) : Prop where
  /-- Both ends of a call are nodes in the view. -/
  nodes : ∀ c ∈ calls, v.contains c.1 = true ∧ v.contains c.2 = true
  /-- The numbers with an edge are those of the ends of a call. -/
  edges : ∀ x y, v.hasEdge x y = true ↔ ∃ c ∈ calls, c.1.id = x ∧ c.2.id = y
  /-- The calls are listed in lexicographic order. -/
  increasing : calls.Pairwise
    (fun c d => c.1.id < d.1.id ∨ c.1.id = d.1.id ∧ c.2.id < d.2.id)

/-! ## The text -/

-- Calls that are listed caller by caller: those of one caller stand together.
theorem filter_flatMap_fst (callees : Node → List Node) (callers : List Node)
    (hn : callers.Nodup) (n : Node) (hmem : n ∈ callers) :
    (callers.flatMap (fun m => (callees m).map (fun k => (m, k)))).filter (fun c => c.1 == n)
      = (callees n).map (fun k => (n, k)) := by
  have hothers : ∀ ms : List Node, n ∉ ms →
      (ms.flatMap (fun m => (callees m).map (fun k => (m, k)))).filter (fun c => c.1 == n) = [] := by
    intro ms hms
    refine List.filter_eq_nil_iff.2 (fun c hc hcn => hms ?_)
    rcases List.mem_flatMap.1 hc with ⟨m, hm, hcm⟩
    rcases List.mem_map.1 hcm with ⟨k, _, rfl⟩
    exact beq_iff_eq.1 hcn ▸ hm
  have hown : ((callees n).map (fun k => (n, k))).filter (fun c => c.1 == n)
      = (callees n).map (fun k => (n, k)) := by
    refine List.filter_eq_self.2 (fun c hc => ?_)
    rcases List.mem_map.1 hc with ⟨k, _, rfl⟩
    exact beq_self_eq_true n
  -- The caller stands at one place, so neither what is before it nor what is behind counts.
  rcases List.append_of_mem hmem with ⟨before, behind, rfl⟩
  have hbefore : n ∉ before := fun h =>
    (List.nodup_append.1 hn).2.2 n h n List.mem_cons_self rfl
  have hbehind : n ∉ behind := (List.nodup_cons.1 (List.nodup_append.1 hn).2.1).1
  rw [List.flatMap_append, List.flatMap_cons, List.filter_append, List.filter_append,
    hothers before hbefore, hothers behind hbehind, hown, List.nil_append, List.append_nil]

theorem viewText_eq (g : Graph) (v : View) (hv : v.WellFormed) (cycles : Int) (title : String) :
    viewText g cycles title v = layout title v.stats v.callNodes (listedCalls g v)
      (if cycles ≤ 0 then [] else v.cycleNodes cycles) := by
  have hnode : ∀ n ∈ v.callNodes, nodeText g v n = "  " ++ n.text ++ "\n" ++
      String.join (((listedCalls g v).filter (fun c => c.1 == n)).map
        (fun c => "    -> " ++ c.2.text ++ "\n")) := by
    intro n hn
    -- Among all listed calls those that start from `n` are the ones listed for `n`.
    rw [listedCalls, filter_flatMap_fst _ _ (v.callNodes_nodup hv) n hn, List.map_map]
    rfl
  have hcycles : (if cycles ≤ 0 then "" else String.join ((v.cycleNodes cycles).map cycleText))
      = String.join ((if cycles ≤ 0 then [] else v.cycleNodes cycles).map cycleText) := by
    by_cases hc : cycles ≤ 0
    · rw [if_pos hc, if_pos hc]
      rfl
    · rw [if_neg hc, if_neg hc]
  rw [viewText, List.map_congr_left hnode, hcycles]
  rfl

/-! ## The calls -/

theorem callNodes_pairwise (v : View) (hv : v.WellFormed) :
    v.callNodes.Pairwise (fun m n => m.id < n.id) := by
  refine List.Pairwise.filterMap v.node? (fun x y hxy m hm n hn => ?_) hv.sorted
  rw [((hv.node?_eq_some_iff x m).1 hm).2, ((hv.node?_eq_some_iff y n).1 hn).2]
  exact hxy

theorem mem_listedCalls_iff (g : Graph) (v : View) (m n : Node) :
    (m, n) ∈ listedCalls g v ↔ m ∈ v.callNodes ∧ n ∈ g.succs m ∧ v.contains n = true := by
  simp [listedCalls]

/-- What is printed about a view that is cut out of a graph are its edges. -/
theorem listedCalls_listsEdges {g : Graph} {v : View} {P : Node → Prop} (hg : g.WellFormed)
    (hw : v.WellFormed) (hv : v.IsInduced g.answers P) : ListsEdges v (listedCalls g v) := by
  -- A listed call is an edge of the graph between nodes with the property.
  have hmem : ∀ m n, (m, n) ∈ listedCalls g v ↔
      (m ∈ g.nodes ∧ P m) ∧ (n ∈ g.nodes ∧ P n) ∧ g.hasEdge m n = true := by
    intro m n
    rw [mem_listedCalls_iff, hv.mem_callNodes hg, Graph.mem_succs_iff, hv.nodes]
    tauto
  constructor
  case nodes =>
    rintro ⟨m, n⟩ hc
    rcases (hmem m n).1 hc with ⟨hm, hn, _⟩
    exact ⟨(hv.nodes m).2 hm, (hv.nodes n).2 hn⟩
  case edges =>
    intro x y
    constructor
    · intro he
      -- The ends of an edge are numbers of nodes with the property.
      rcases hv.ends x y he with ⟨hx, hy⟩
      rcases (hv.keys x).1 hx with ⟨m, hm, rfl, hpm⟩
      rcases (hv.keys y).1 hy with ⟨n, hn, rfl, hpn⟩
      have hedge := ((hv.edges m hm n hn).1 he).2.2
      exact ⟨(m, n), (hmem m n).2 ⟨⟨hm, hpm⟩, ⟨hn, hpn⟩, hedge⟩, rfl, rfl⟩
    · rintro ⟨⟨m, n⟩, hc, rfl, rfl⟩
      rcases (hmem m n).1 hc with ⟨⟨hm, hpm⟩, ⟨hn, hpn⟩, hedge⟩
      exact (hv.edges m hm n hn).2 ⟨hpm, hpn, hedge⟩
  case increasing =>
    refine List.pairwise_flatMap.2 ⟨fun m _ => ?_, (callNodes_pairwise v hw).imp ?_⟩
    · -- Under one node: callees come by number, and leaving some out does not disturb them.
      have hsuccs : (g.succs m).Pairwise (fun n k => n.id < k.id) :=
        List.pairwise_map.1 (hg.among_pairwise _)
      exact List.pairwise_map.2 ((hsuccs.filter _).imp (fun hlt => Or.inr ⟨rfl, hlt⟩))
    · -- Under different nodes: the callers decide.
      intro m m' hlt c hc d hd
      rcases List.mem_map.1 hc with ⟨_, _, rfl⟩
      rcases List.mem_map.1 hd with ⟨_, _, rfl⟩
      exact Or.inl hlt

theorem ListsEdges.length_eq {v : View} {calls : List (Node × Node)} (hw : v.WellFormed)
    (hcalls : ListsEdges v calls) : calls.length = v.size := by
  have hnodup : (calls.map (fun c => (c.1.id, c.2.id))).Nodup := by
    refine List.pairwise_map.2 (hcalls.increasing.imp ?_)
    intro c d hlt heq
    rcases Prod.mk.inj heq with ⟨hcaller, hcallee⟩
    rcases hlt with hlt | ⟨_, hlt⟩
    · exact absurd hcaller (Int.ne_of_lt hlt)
    · exact absurd hcallee (Int.ne_of_lt hlt)
  -- So the list counts the set of edges, which is what the size of a view counts.
  have hset : {e : NodeId × NodeId | v.hasEdge e.1 e.2 = true}
      = {e | e ∈ calls.map (fun c => (c.1.id, c.2.id))} := by
    ext ⟨x, y⟩
    rw [Set.mem_ofPred_eq, Set.mem_ofPred_eq, hcalls.edges, List.mem_map]
    simp only [Prod.mk.injEq]
  rw [← (v.ncard_edges hw).2, hset, (ncard_setOf_mem _ hnodup).2, List.length_map]

/-! ## The three views -/

-- All three are cut out of the view of the whole graph by a test.
theorem exists_keep_of_mem_titled (g : Graph) (isApp : Node → Bool) (name title : String)
    (v : View) (hv : (name, title, v) ∈ titled (.build g.answers isApp)) :
    ∃ keep, v = (View.ofGraph g).induced keep := by
  simp only [titled, List.mem_cons, Prod.mk.injEq, List.not_mem_nil, or_false] at hv
  rcases hv with ⟨_, _, rfl⟩ | ⟨_, _, rfl⟩ | ⟨_, _, rfl⟩
  · exact ⟨_, rfl⟩
  · exact ⟨_, rfl⟩
  · exact ⟨_, rfl⟩

/-- Each of the three views of a call graph is printed with its own edges: the calls in the printed
    text are the edges of the view, each once and in lexicographic order, and there are as many of
    them as the figures above them say. -/
theorem listedCalls_exact (g : Graph) (hg : g.Built) (isApp : Node → Bool) (name title : String)
    (v : View) (hv : (name, title, v) ∈ titled (.build g.answers isApp)) :
    (∀ cycles, viewText g cycles title v = layout title v.stats v.callNodes (listedCalls g v)
      (if cycles ≤ 0 then [] else v.cycleNodes cycles)) ∧
    ListsEdges v (listedCalls g v) ∧ (listedCalls g v).length = v.stats.edges := by
  have hw : g.WellFormed := Graph.built_wellFormed g hg
  rcases exists_keep_of_mem_titled g isApp name title v hv with ⟨keep, rfl⟩
  have hwhole : ((View.ofGraph g).induced keep).WellFormed :=
    View.restrict_wellFormed _ (View.ofGraph_wellFormed hw)
  have hcut : ((View.ofGraph g).induced keep).IsInduced g.answers (fun n => keep n = true) :=
    View.induced_isInduced hw (fun n _ => Iff.rfl)
  have hlists := listedCalls_listsEdges hw hwhole hcut
  exact ⟨fun cycles => viewText_eq g _ hwhole cycles title, hlists, hlists.length_eq hwhole⟩

/-- Of the sample, the view one call around the application is printed with four calls. One of them
    is that of a node to itself, and the call to the node outside is left out. -/
theorem listedCalls_exact_callback :
    Graph.callback.Built ∧
    ("one-hop", "One-hop", (Slices.build Graph.callback.answers Node.isApplication).oneHop)
      ∈ titled (.build Graph.callback.answers Node.isApplication) ∧
    (listedCalls .callback (Slices.build Graph.callback.answers Node.isApplication).oneHop).map
      (fun c => (c.1.id, c.2.id)) = [(0, 1), (1, 1), (1, 2), (2, 0)] ∧
    (Slices.build Graph.callback.answers Node.isApplication).oneHop.stats.edges = 4 := by
  have hmem : ("one-hop", "One-hop", (Slices.build Graph.callback.answers Node.isApplication).oneHop)
      ∈ titled (.build Graph.callback.answers Node.isApplication) := List.mem_cons_of_mem _ List.mem_cons_self
  have hcalls : (listedCalls .callback (Slices.build Graph.callback.answers Node.isApplication).oneHop).map
      (fun c => (c.1.id, c.2.id)) = [(0, 1), (1, 1), (1, 2), (2, 0)] := by cbv
  have hlength := congrArg List.length hcalls
  rw [List.length_map] at hlength
  rcases listedCalls_exact .callback Graph.callback_built Node.isApplication _ _ _ hmem with
    ⟨_, _, hedges⟩
  exact ⟨Graph.callback_built, hmem, hcalls, hedges.symm.trans hlength⟩

end TaintSeed.Command.Views
