import Mathlib.Data.List.Induction
import TaintSeed.Proofs.CallGraph.Lookup

/-!
# The History of a Call Graph

What a call graph is made of can be told from what was done to it: nodes are
offered, some for the second time and some as duplicates of others, edges are
asked for between any of the offered nodes, roots are listed and entries are
set.

A `Ledger` keeps the graph together with the nodes that were offered, each as
it is now. An offered node that was accepted has its number; one that was
turned down has none. Actions name nodes by the place of their offer, so it is
said which node is meant even where two of them are alike.

`Ledger.Effect` says what one action can do to a ledger that is `Consistent`:
a new node is accepted, a duplicate is turned down, an edge is drawn or
refused, or neither nodes nor edges change. What holds after every history
follows from these cases by induction on the list of actions, the last one
taken off.

## Main definitions

* `Graph.Action`: What is done to a call graph.
* `Graph.Ledger`: A call graph with the nodes that were offered to it.
* `Graph.Ledger.Effect`: What an action can do.

## Theorems

* `Graph.Ledger.act_effect`: An action does one of these.
* `Graph.run_consistent`: Every history leads to a consistent ledger.
* `Graph.unplaced_offered_run`: But for their numbers, the offered nodes are those of the offers.
-/

namespace TaintSeed

/-- The node as it is before it is placed. -/
def Node.unplaced (n : Node) : Node := { n with id? := none }

namespace Graph

/-- What is done to a call graph. Nodes are named by the place of their first offer. -/
inductive Action where
  /-- A node that is in no graph is offered. -/
  | offer (n : Node)
  /-- A node is offered once more. -/
  | offerAgain (i : Nat)
  /-- An edge is asked for. -/
  | connect (caller callee : Nat)
  /-- A node is listed among the roots. -/
  | addRoot (i : Nat)
  /-- The entry blocks of a node are set. -/
  | setEntries (i : Nat) (blocks : List Int)

/-- The node of a first offer. -/
def Action.offered? : Action → Option Node
  | .offer n => some n.unplaced
  | _ => none

/-- A call graph, with the nodes that were offered to it as they are now. -/
structure Ledger where
  graph : Graph
  offered : List Node

/-- An offered node as it is afterwards: numbered if it was accepted, and unchanged if its method
    was there in its context. -/
def settled (g : Graph) (n : Node) : Node :=
  if (g.find? n.method n.context).isSome then n else (g.place n).2

/-- The ledger after an action. An action on a place where nothing was offered does nothing, and
    an edge that is refused leaves the graph as it is. -/
def Ledger.act (w : Ledger) : Action → Ledger
  | .offer n => ⟨(w.graph.place n.unplaced).1, w.offered ++ [w.graph.settled n.unplaced]⟩
  | .offerAgain i =>
    match w.offered[i]? with
    | none => w
    | some n => ⟨(w.graph.place n).1, w.offered.set i (w.graph.settled n)⟩
  | .connect i j =>
    match w.offered[i]?, w.offered[j]? with
    | some a, some b =>
      match w.graph.connect a b with
      | .ok g => ⟨g, w.offered⟩
      | .error _ => w
    | _, _ => w
  | .addRoot i =>
    match w.offered[i]? with
    | none => w
    | some n => ⟨w.graph.addRoot n, w.offered⟩
  | .setEntries i blocks =>
    match w.offered[i]? with
    | none => w
    | some n => ⟨w.graph.setEntries n blocks, w.offered⟩

/-- The ledger after a sequence of actions on the empty graph. -/
def run (acts : List Action) : Ledger := acts.foldl Ledger.act ⟨.empty, []⟩

theorem run_concat (acts : List Action) (x : Action) : run (acts ++ [x]) = (run acts).act x :=
  List.foldl_append

/-! ## What one action does -/

namespace Ledger

/-- Of the offered nodes, the first of each method in each context has a number. -/
def FirstNumbered (offered : List Node) : Prop :=
  ∀ (i : Nat) (n : Node), offered[i]? = some n →
    (n.id?.isSome = true ↔
      ∀ (j : Nat) (m : Node), j < i → offered[j]? = some m → ¬ SameKey m n)

/-- The nodes of the graph are the accepted ones among those that were offered. -/
structure Consistent (w : Ledger) : Prop where
  built : w.graph.Built
  nodes : w.graph.nodes = w.offered.filter (fun n => n.id?.isSome)
  known : ∀ n ∈ w.offered, ∃ m ∈ w.graph.nodes, SameKey m n
  first : FirstNumbered w.offered

theorem Consistent.mem_offered {w : Ledger} (hw : w.Consistent) (n : Node)
    (hn : n ∈ w.graph.nodes) : n ∈ w.offered := by
  rw [hw.nodes] at hn
  exact (List.mem_filter.1 hn).1

theorem settled_eq_of_known (g : Graph) (n there : Node) (hmem : there ∈ g.nodes)
    (hkey : SameKey there n) : g.settled n = n := by
  have hsome : (g.find? n.method n.context).isSome = true := by
    cases hfind : g.find? n.method n.context with
    | none => exact absurd hkey ((find?_eq_none_iff g n).1 hfind there hmem)
    | some _ => rfl
  rw [settled, if_pos hsome]

theorem settled_eq_of_new (g : Graph) (n : Node) (hnew : ∀ m ∈ g.nodes, ¬ SameKey m n) :
    g.settled n = (g.place n).2 := by
  rw [settled, (find?_eq_none_iff g n).2 hnew]
  rfl

/-- What an action can do to a ledger. -/
inductive Effect (w : Ledger) : Action → Ledger → Prop
  /-- A new node gets the next number. -/
  | accepted (n : Node) (new : ∀ m ∈ w.graph.nodes, ¬ SameKey m n) :
      Effect w (.offer n)
        ⟨{ w.graph with nodes := w.graph.nodes ++ [{ n with id? := some (w.graph.size : NodeId) }] },
          w.offered ++ [{ n with id? := some (w.graph.size : NodeId) }]⟩
  /-- A duplicate gets none. -/
  | turnedDown (n there : Node) (mem : there ∈ w.graph.nodes) (key : SameKey there n) :
      Effect w (.offer n) ⟨w.graph, w.offered ++ [n.unplaced]⟩
  /-- An edge is drawn between two nodes of the graph. -/
  | drawn (i j : Nat) (a b : Node) (caller : w.offered[i]? = some a)
      (callee : w.offered[j]? = some b) (mem : a ∈ w.graph.nodes ∧ b ∈ w.graph.nodes) :
      Effect w (.connect i j)
        ⟨{ w.graph with edges := w.graph.edges.insert (a.id, b.id) }, w.offered⟩
  /-- An edge is refused, because one of its nodes is missing or not in the graph. -/
  | refused (i j : Nat) (missing : ∀ a b, w.offered[i]? = some a → w.offered[j]? = some b →
        ¬ (a ∈ w.graph.nodes ∧ b ∈ w.graph.nodes)) :
      Effect w (.connect i j) w
  /-- Neither nodes nor edges change. -/
  | neither (x : Action) (w' : Ledger) (offer : x.offered? = none)
      (connect : ∀ i j, x ≠ .connect i j) (offered : w'.offered = w.offered)
      (nodes : w'.graph.nodes = w.graph.nodes) (edges : w'.graph.edges = w.graph.edges) :
      Effect w x w'

theorem offer_effect (w : Ledger) (n : Node) :
    w.Effect (.offer n) (w.act (.offer n)) := by
  rcases place_cases w.graph n.unplaced with ⟨there, hmem, hkey, hplace⟩ | ⟨hnew, hplace⟩
  · have hact : w.act (.offer n) = ⟨w.graph, w.offered ++ [n.unplaced]⟩ := by
      simp only [act, hplace, settled_eq_of_known w.graph n.unplaced there hmem hkey]
    rw [hact]
    exact .turnedDown n there hmem hkey
  · have hact : w.act (.offer n)
        = ⟨{ w.graph with nodes := w.graph.nodes ++ [{ n with id? := some (w.graph.size : NodeId) }] },
          w.offered ++ [{ n with id? := some (w.graph.size : NodeId) }]⟩ := by
      simp only [act, settled_eq_of_new w.graph n.unplaced hnew, hplace]
      rfl
    rw [hact]
    exact .accepted n hnew

/-- A node that is offered again finds its method there in its context, since its first offer. -/
theorem offerAgain_eq (w : Ledger) (hw : w.Consistent) (i : Nat) : w.act (.offerAgain i) = w := by
  cases hget : w.offered[i]? with
  | none => simp only [act, hget]
  | some n =>
      rcases hw.known n (List.mem_of_getElem? hget) with ⟨there, hmem, hkey⟩
      have hplace := (built_distinct w.graph hw.built).place_eq n there hmem hkey
      rcases List.getElem?_eq_some_iff.1 hget with ⟨hlt, heq⟩
      have hset : w.offered.set i n = w.offered := by rw [← heq, List.set_getElem_self]
      simp only [act, hget, hplace, settled_eq_of_known w.graph n there hmem hkey, hset]

theorem connect_effect (w : Ledger) (hw : w.Consistent) (i j : Nat) :
    w.Effect (.connect i j) (w.act (.connect i j)) := by
  have hconnect := (built_wellFormed w.graph hw.built).connect_eq
  by_cases hdrawn : ∃ a b, w.offered[i]? = some a ∧ w.offered[j]? = some b ∧
      a ∈ w.graph.nodes ∧ b ∈ w.graph.nodes
  · rcases hdrawn with ⟨a, b, hi, hj, hboth⟩
    have hact : w.act (.connect i j)
        = ⟨{ w.graph with edges := w.graph.edges.insert (a.id, b.id) }, w.offered⟩ := by
      simp only [act, hi, hj, hconnect, if_pos hboth]
    rw [hact]
    exact .drawn i j a b hi hj hboth
  · have hmissing : ∀ a b, w.offered[i]? = some a → w.offered[j]? = some b →
        ¬ (a ∈ w.graph.nodes ∧ b ∈ w.graph.nodes) :=
      fun a b hi hj hboth => hdrawn ⟨a, b, hi, hj, hboth⟩
    have hact : w.act (.connect i j) = w := by
      simp only [act]
      split
      · rename_i a b hi hj
        rw [hconnect, if_neg (hmissing a b hi hj)]
      · rfl
    rw [hact]
    exact .refused i j hmissing

theorem act_effect (w : Ledger) (hw : w.Consistent) (x : Action) : w.Effect x (w.act x) := by
  cases x with
  | offer n => exact offer_effect w n
  | offerAgain i =>
      rw [offerAgain_eq w hw i]
      exact .neither _ _ rfl nofun rfl rfl rfl
  | connect i j => exact connect_effect w hw i j
  | addRoot i =>
      simp only [act]
      split <;> exact .neither _ _ rfl nofun rfl rfl rfl
  | setEntries i blocks =>
      simp only [act]
      split <;> exact .neither _ _ rfl nofun rfl rfl rfl

theorem act_built (w : Ledger) (x : Action) (hw : w.graph.Built) : (w.act x).graph.Built := by
  cases x with
  | offer n => exact .place _ hw
  | offerAgain i =>
      simp only [act]
      split
      · exact hw
      · exact .place _ hw
  | connect i j =>
      simp only [act]
      split
      · split
        · rename_i hdrawn
          exact .connect _ _ hw hdrawn
        · exact hw
      · exact hw
  | addRoot i =>
      simp only [act]
      split
      · exact hw
      · exact .addRoot _ hw
  | setEntries i blocks =>
      simp only [act]
      split
      · exact hw
      · exact .setEntries _ _ hw

/-- Whether a node is the first of its method and context does not change when another node is
    offered after it, so only the last one has to be looked at. -/
theorem firstNumbered_concat (offered : List Node) (last : Node) (hold : FirstNumbered offered)
    (hlast : last.id?.isSome = true ↔ ∀ m ∈ offered, ¬ SameKey m last) :
    FirstNumbered (offered ++ [last]) := by
  intro i n hn
  by_cases hi : i < offered.length
  · rw [List.getElem?_append_left hi] at hn
    rw [hold i n hn]
    refine forall_congr' (fun j => forall_congr' (fun m => imp_congr_right (fun hj => ?_)))
    rw [List.getElem?_append_left (Nat.lt_trans hj hi)]
  · have hlen : i = offered.length := by
      have hlt := (List.getElem?_eq_some_iff.1 hn).1
      simp only [List.length_append, List.length_singleton] at hlt
      omega
    subst hlen
    rw [List.getElem?_concat_length, Option.some.injEq] at hn
    subst hn
    rw [hlast]
    constructor
    · intro h j m hj hm
      rw [List.getElem?_append_left hj] at hm
      exact h m (List.mem_of_getElem? hm)
    · intro h m hm
      rcases List.getElem?_of_mem hm with ⟨j, hj⟩
      have hlt := (List.getElem?_eq_some_iff.1 hj).1
      exact h j m hlt (by rw [List.getElem?_append_left hlt]; exact hj)

theorem Effect.consistent {w w' : Ledger} {x : Action} (h : w.Effect x w') (hw : w.Consistent)
    (hb : w'.graph.Built) : w'.Consistent := by
  cases h with
  | accepted n new =>
      refine ⟨hb, ?_, ?_, firstNumbered_concat w.offered _ hw.first ?_⟩
      · simp only [List.filter_append, ← hw.nodes]
        rfl
      · intro m hm
        rcases List.mem_append.1 hm with hold | hlast
        · rcases hw.known m hold with ⟨there, hmem, hkey⟩
          exact ⟨there, List.mem_append_left _ hmem, hkey⟩
        · exact ⟨m, List.mem_append_right _ hlast, rfl, rfl⟩
      · refine ⟨fun _ m hm hkey => ?_, fun _ => rfl⟩
        -- An earlier node with its key would have brought that key into the graph.
        rcases hw.known m hm with ⟨there, hmem, hkey'⟩
        exact new there hmem ⟨hkey'.1.trans hkey.1, hkey'.2.trans hkey.2⟩
  | turnedDown n there mem key =>
      refine ⟨hb, ?_, ?_, firstNumbered_concat w.offered _ hw.first ?_⟩
      · simp only [List.filter_append, ← hw.nodes]
        exact (List.append_nil _).symm
      · intro m hm
        rcases List.mem_append.1 hm with hold | hlast
        · exact hw.known m hold
        · rw [List.mem_singleton.1 hlast]
          exact ⟨there, mem, key⟩
      · refine ⟨fun hc => (by cases hc), fun hall => ?_⟩
        exact absurd key (hall there (hw.mem_offered there mem))
  | drawn i j a b caller callee mem => exact ⟨hb, hw.nodes, hw.known, hw.first⟩
  | refused i j missing => exact hw
  | neither _ _ offer connect offered nodes edges =>
      refine ⟨hb, ?_, ?_, ?_⟩
      · rw [nodes, offered, hw.nodes]
      · rw [nodes, offered]
        exact hw.known
      · rw [offered]
        exact hw.first

theorem act_consistent (w : Ledger) (x : Action) (hw : w.Consistent) : (w.act x).Consistent :=
  (act_effect w hw x).consistent hw (act_built w x hw.built)

end Ledger

/-! ## What a history leads to -/

/-- Every history leads to a consistent ledger, by induction on the actions. -/
theorem run_consistent (acts : List Action) : (run acts).Consistent := by
  induction acts using List.reverseRecOn with
  | nil =>
      refine ⟨.empty, rfl, fun n hn => absurd hn List.not_mem_nil, fun i n hn => ?_⟩
      rw [run, List.foldl_nil, List.getElem?_nil] at hn
      cases hn
  | append_singleton acts x ih =>
      rw [run_concat]
      exact Ledger.act_consistent _ x ih

/-- But for their numbers, the offered nodes are those of the offers. -/
theorem unplaced_offered_run (acts : List Action) :
    (run acts).offered.map Node.unplaced = acts.filterMap Action.offered? := by
  induction acts using List.reverseRecOn with
  | nil => rfl
  | append_singleton acts x ih =>
      rw [run_concat, List.filterMap_append, ← ih]
      have heff := Ledger.act_effect _ (run_consistent acts) x
      generalize (run acts).act x = w' at heff
      cases heff with
      | accepted n new => rw [List.map_append]; rfl
      | turnedDown n there mem key => rw [List.map_append]; rfl
      | drawn i j a b caller callee mem => exact (List.append_nil _).symm
      | refused i j missing => exact (List.append_nil _).symm
      | neither _ _ offer connect offered nodes edges =>
          rw [offered, List.filterMap_cons_none offer]
          exact (List.append_nil _).symm

/-- How the sample comes about. -/
def callbackHistory : List Action :=
  callback.nodes.map .offer ++
    [.connect 0 1, .connect 1 1, .connect 1 2, .connect 2 0, .connect 2 3]

theorem callbackHistory_run : (run callbackHistory).graph = callback := rfl

end Graph

end TaintSeed
