import Mathlib.Data.List.Pairwise
import TaintSeed.Proofs.CallGraph.Built

/-!
# Nodes Are Found Again

A node of a call graph can be asked for by its number, by its method and
context, or shown as a whole to see whether it is the one in the graph. In a
graph that was built the three agree: numbers are positions, and `Distinct`
says that no method is there twice in one context, so a look-up has one answer
to give.

A node that is shown must be equal to the one under its number, number
included. A node that was turned down as a duplicate never got a number, so it
is not taken for the node that it duplicates, although it reads as number zero.

## Main definitions

* `Graph.Distinct`: No method is in the graph twice in one context.

## Theorems

* `Graph.built_distinct`: A graph that was built has no method twice in one context.
* `Graph.Distinct.find?_eq_some_iff`: Looking up a method in a context.
* `Graph.Distinct.place_eq`: Placing a method that is there changes nothing.
* `Graph.WellFormed.byId?_eq_some_iff`: Looking up a number.
* `Graph.WellFormed.holds_iff`: The graph holds its nodes and no others.
* `Graph.WellFormed.connect_eq`: Drawing an edge, and when it fails.
-/

namespace TaintSeed

namespace Graph

/-- The nodes are the same method in the same context. -/
def SameKey (m n : Node) : Prop := m.method = n.method ∧ m.context = n.context

/-- No method is in the graph twice in one context. -/
def Distinct (g : Graph) : Prop := g.nodes.Pairwise (fun m n => ¬ SameKey m n)

theorem find?_eq_none_iff (g : Graph) (n : Node) :
    g.find? n.method n.context = none ↔ ∀ m ∈ g.nodes, ¬ SameKey m n := by
  simp [find?, SameKey]

theorem mem_of_find?_eq_some (g : Graph) (n there : Node)
    (h : g.find? n.method n.context = some there) : there ∈ g.nodes ∧ SameKey there n := by
  refine ⟨List.mem_of_find?_eq_some h, ?_⟩
  simpa [SameKey] using List.find?_some h

/-- Placing a node either finds one with its method and context or puts it behind the others,
    under the next number. -/
theorem place_cases (g : Graph) (n : Node) :
    (∃ there ∈ g.nodes, SameKey there n ∧ g.place n = (g, there)) ∨
    (∀ m ∈ g.nodes, ¬ SameKey m n) ∧
      g.place n = ({ g with nodes := g.nodes ++ [{ n with id? := some (g.size : NodeId) }] },
        { n with id? := some (g.size : NodeId) }) := by
  cases hfind : g.find? n.method n.context with
  | some there =>
      rcases mem_of_find?_eq_some g n there hfind with ⟨hmem, hkey⟩
      exact Or.inl ⟨there, hmem, hkey, by simp only [place, hfind]⟩
  | none =>
      refine Or.inr ⟨(find?_eq_none_iff g n).1 hfind, ?_⟩
      simp only [place, hfind, size]

theorem place_distinct (g : Graph) (n : Node) (hg : g.Distinct) : (g.place n).1.Distinct := by
  rcases place_cases g n with ⟨there, _, _, hplace⟩ | ⟨hnew, hplace⟩
  · rw [hplace]
    exact hg
  · rw [hplace, Distinct]
    refine List.pairwise_append.2 ⟨hg, List.pairwise_singleton _ _, ?_⟩
    intro m hm placed hplaced
    rw [List.mem_singleton.1 hplaced]
    exact hnew m hm

/-- Where an edge is drawn, nothing else changes. -/
theorem eq_of_connect (g g' : Graph) (caller callee : Node)
    (hdrawn : g.connect caller callee = .ok g') :
    g' = { g with edges := g.edges.insert (caller.id, callee.id) } := by
  unfold connect at hdrawn
  split at hdrawn
  · cases hdrawn
    rfl
  · cases hdrawn

/-- No method is twice in a graph that was built, by induction on the way it was built. -/
theorem built_distinct (g : Graph) (hg : g.Built) : g.Distinct := by
  induction hg with
  | empty => exact List.Pairwise.nil
  | place n _ ih => exact place_distinct _ n ih
  | connect caller callee _ hdrawn ih =>
      rw [eq_of_connect _ _ caller callee hdrawn]
      exact ih
  | addRoot n _ ih => exact ih
  | setEntries n blocks _ ih => exact ih

/-- Method and context tell the nodes of a graph apart. -/
theorem Distinct.eq_of_sameKey {g : Graph} (hg : g.Distinct) (m n : Node) (hm : m ∈ g.nodes)
    (hn : n ∈ g.nodes) (hkey : SameKey m n) : m = n := by
  by_contra hne
  have hsymm : Std.Symm (fun m n : Node => ¬ SameKey m n) :=
    ⟨fun _ _ h hc => h ⟨hc.1.symm, hc.2.symm⟩⟩
  exact List.Pairwise.forall hg hm hn hne hkey

/-- Looking up a method in a context finds the node that has both. -/
theorem Distinct.find?_eq_some_iff {g : Graph} (hg : g.Distinct) (method : MethodRef)
    (context : String) (n : Node) :
    g.find? method context = some n ↔
      n ∈ g.nodes ∧ n.method = method ∧ n.context = context := by
  constructor
  · intro h
    refine ⟨List.mem_of_find?_eq_some h, ?_⟩
    simpa using List.find?_some h
  · rintro ⟨hn, rfl, rfl⟩
    cases hfind : g.find? n.method n.context with
    | none => exact absurd ⟨rfl, rfl⟩ ((find?_eq_none_iff g n).1 hfind n hn)
    | some there =>
        rcases mem_of_find?_eq_some g n there hfind with ⟨hmem, hkey⟩
        rw [hg.eq_of_sameKey there n hmem hn hkey]

/-- Placing a method that is there in its context gives the node that is there. -/
theorem Distinct.place_eq {g : Graph} (hg : g.Distinct) (n there : Node) (hmem : there ∈ g.nodes)
    (hkey : SameKey there n) : g.place n = (g, there) := by
  rcases place_cases g n with ⟨other, hother, hkey', hplace⟩ | ⟨hnew, _⟩
  · have hsame : SameKey other there :=
      ⟨hkey'.1.trans hkey.1.symm, hkey'.2.trans hkey.2.symm⟩
    rw [hplace, hg.eq_of_sameKey other there hother hmem hsame]
  · exact absurd hkey (hnew there hmem)

/-! ## Numbers -/

/-- The number of a node is its position. -/
theorem WellFormed.id?_getElem {g : Graph} (hg : g.WellFormed) (i : Nat) (n : Node)
    (hn : g.nodes[i]? = some n) : n.id? = some (i : NodeId) := by
  have hlt : i < g.nodes.length := (List.getElem?_eq_some_iff.1 hn).1
  have hid : (g.nodes.map Node.id?)[i]? = some n.id? := by rw [List.getElem?_map, hn, Option.map_some]
  rw [hg.numbered, List.getElem?_map, List.getElem?_range hlt, Option.map_some,
    Option.some.injEq] at hid
  exact hid.symm

/-- Looking up a number is looking up a position. -/
theorem byId?_natCast (g : Graph) (i : Nat) : g.byId? (i : NodeId) = g.nodes[i]? := by
  unfold byId? Node.nth?
  rw [if_neg (Int.not_lt.2 (Int.natCast_nonneg i)), Int.toNat_natCast]

/-- Looking up a number finds the node that has it. -/
theorem WellFormed.byId?_eq_some_iff {g : Graph} (hg : g.WellFormed) (id : NodeId) (n : Node) :
    g.byId? id = some n ↔ n ∈ g.nodes ∧ n.id? = some id := by
  constructor
  · intro h
    unfold byId? Node.nth? at h
    split at h
    · cases h
    · rename_i hneg
      refine ⟨List.mem_of_getElem? h, ?_⟩
      rw [hg.id?_getElem id.toNat n h, Int.toNat_of_nonneg (Int.not_lt.1 hneg)]
  · rintro ⟨hn, hid⟩
    rcases List.getElem?_of_mem hn with ⟨i, hi⟩
    have hpos : id = (i : NodeId) := by
      rw [hg.id?_getElem i n hi, Option.some.injEq] at hid
      exact hid.symm
    rw [hpos, byId?_natCast]
    exact hi

/-- The graph holds its nodes and no others. -/
theorem WellFormed.holds_iff {g : Graph} (hg : g.WellFormed) (n : Node) :
    g.holds n = true ↔ n ∈ g.nodes := by
  refine ⟨mem_nodes_of_holds g n, fun hn => ?_⟩
  have hid : n.id? = some n.id := hg.id?_eq n hn
  simp only [holds, hid, beq_iff_eq]
  exact (hg.byId?_eq_some_iff n.id n).2 ⟨hn, hid⟩

/-- An edge is drawn if both nodes are in the graph themselves, and refused otherwise. -/
theorem WellFormed.connect_eq {g : Graph} (hg : g.WellFormed) (a b : Node) :
    g.connect a b = if a ∈ g.nodes ∧ b ∈ g.nodes then
      .ok { g with edges := g.edges.insert (a.id, b.id) } else .error ⟨a, some b⟩ := by
  unfold connect
  simp only [Bool.and_eq_true, hg.holds_iff]

end Graph

end TaintSeed
