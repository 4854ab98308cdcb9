import TaintSeed.Proofs.CallGraph.Lookup
import TaintSeed.Proofs.Session.Memory
import TaintSeed.Proofs.View.Slices

/-!
# Seeding the Application Alone

A configuration decides where sources are looked for: on all nodes of the call
graph, or on the application slice. The second choice is meant to leave facts
out and to do nothing else. It takes its nodes from somewhere else, though, from
the table of a view instead of the graph, and it resolves other pairs, so that
this is so has to be shown.

Three facts make it so. The nodes of the slice are the application nodes and
the synthetic nodes of the graph (`mem_seedNodes`). Whether a pair of a node
and a source can be resolved depends on that pair alone, so fewer pairs fail
less often (`seedUnaided_isOk_iff`). And a fact stands at a block of the node
that it comes from (`Resolution.SeededBy.node_eq`), so the point of a fact tells
whether the node is in the slice.

By `seed_after` a session can be taken as if it remembered nothing, which is
why the two sessions that are compared may have any history.

## Main definitions

* `Config.Considers`: Sources are looked for on a node.

## Theorems

* `Session.seed_after`: A seeding does not depend on the requests before it.
* `Session.mem_seedNodes`: The nodes on which sources are resolved.
* `Session.seedUnaided_isOk_iff`: A seeding succeeds if every pair can be resolved.
* `Session.seedUnaided_facts`: The facts of a seeding are those of its pairs.
* `Session.seed_application_filters`: Seeding the application alone filters the facts.
-/

namespace TaintSeed

/-- Sources are looked for on the node. -/
def Config.Considers (c : Config) (n : Node) : Prop :=
  c.options.includeLibrary = true ∨ n.isApplication = true ∨ n.isSynthetic = true

instance (c : Config) (n : Node) : Decidable (c.Considers n) :=
  inferInstanceAs (Decidable (_ ∨ _ ∨ _))

-- The policy is no part of what a program knows about objects.
theorem Program.heap_alike (p : Program) (q q' : Log.Policy) : (p.heap q).Alike (p.heap q') :=
  ⟨fun _ _ => Iff.rfl, rfl⟩

/-- A node starts at blocks of its own. -/
theorem Graph.node_of_mem_entriesOf (g : Graph) (n : Node) (q : ProgramPoint)
    (hq : q ∈ g.entriesOf n) : q.node = n.id := by
  unfold entriesOf Node.entriesFrom at hq
  split at hq
  · rcases List.mem_map.1 hq with ⟨b, _, rfl⟩
    rfl
  · split at hq
    · exact absurd hq List.not_mem_nil
    · rw [List.mem_singleton.1 hq]

/-- A fact stands at a block of the node that it comes from. -/
theorem Resolution.SeededBy.node_eq {env : Resolution.Env} {s : Source} {n : Node}
    {q : ProgramPoint} {t : Flow} {e : Element} (h : SeededBy env s n q t e) :
    q.node = n.id := by
  rcases h with ⟨arg, _, v, _, ⟨_, hentry, _⟩ | ⟨_, hentry, _⟩⟩
  · exact env.graph.node_of_mem_entriesOf n q hentry
  · exact env.graph.node_of_mem_entriesOf n q hentry

namespace Session

/-- Whatever a session of a program has been asked before, its seedings are those of a session
    that remembers nothing. -/
theorem seed_after (c : Config) (p : Program) (requests : List Request)
    (sources : List Source) :
    (((ofProgram c p).after requests).seed sources).result
      = (ofProgram c p).seedUnaided sources := by
  rcases after_remembers (ofProgram c p) (Closer.fresh_remembers _) requests with
    ⟨closer, hafter, hremembers⟩
  rw [hafter]
  exact (seed_unaided _ hremembers sources).1

/-- Sources are resolved on the nodes of the graph that the configuration considers. -/
theorem mem_seedNodes (c : Config) (p : Program) (hg : p.graph.WellFormed) (n : Node) :
    n ∈ (ofProgram c p).seedNodes ↔ n ∈ p.graph.nodes ∧ c.Considers n := by
  unfold seedNodes ofProgram Config.Considers
  by_cases hall : c.options.includeLibrary = true
  · simp [hall]
  · -- Here the nodes come from the table of the slice, by their numbers.
    simp only [hall, Bool.false_eq_true, ↓reduceIte, false_or]
    exact (Slices.application_isInduced p.graph hg Node.isApplication).mem_callNodes hg n

/-- A seeding succeeds if every pair of a node and a source that names it can be resolved. -/
theorem seedUnaided_isOk_iff (s : Session) (sources : List Source) :
    (∃ f count, s.seedUnaided sources = .ok (f, count)) ↔
      ∀ x ∈ Resolution.matchingPairs sources s.seedNodes, Resolution.IsResolvableOn x.2 x.1 := by
  rw [← Resolution.resolvePairs_eq_none_iff ⟨s.graph, s.heap⟩ _ 0 ⟨.empty, none, []⟩]
  unfold seedUnaided
  simp only [Resolution.resolveAll]
  cases hr : Resolution.resolvePairs ⟨s.graph, s.heap⟩
      (Resolution.matchingPairs sources s.seedNodes) 0 ⟨.empty, none, []⟩ with
  | mk r ending =>
      rcases ending with ⟨count, failure⟩
      cases failure with
      | some e => simp
      | none => simp

/-- The facts of a seeding that succeeds are those of its pairs. -/
theorem seedUnaided_facts (s : Session) (sources : List Source) (f : Facts) (count : Nat)
    (hok : s.seedUnaided sources = .ok (f, count)) (q : ProgramPoint) (t : Flow) (e : Element) :
    f.Holds q t e ↔ ∃ x ∈ Resolution.matchingPairs sources s.seedNodes,
      Resolution.SeededBy ⟨s.graph, s.heap⟩ x.2 x.1 q t e := by
  have hsound : Resolution.Sound ⟨s.graph, s.heap⟩ ⟨.empty, none, []⟩ := by
    intro c hc
    cases hc
  have hnone : (Resolution.resolvePairs ⟨s.graph, s.heap⟩
      (Resolution.matchingPairs sources s.seedNodes) 0 ⟨.empty, none, []⟩).2.2 = none := by
    rw [Resolution.resolvePairs_eq_none_iff, ← seedUnaided_isOk_iff]
    exact ⟨f, count, hok⟩
  have hadds := (Resolution.resolvePairs_adds ⟨s.graph, s.heap⟩
    (Resolution.matchingPairs sources s.seedNodes) 0 ⟨.empty, none, []⟩ hsound hnone).1
  unfold seedUnaided at hok
  simp only [Resolution.resolveAll] at hok
  cases hr : Resolution.resolvePairs ⟨s.graph, s.heap⟩
      (Resolution.matchingPairs sources s.seedNodes) 0 ⟨.empty, none, []⟩ with
  | mk r ending =>
      rcases ending with ⟨n, failure⟩
      rw [hr] at hok hnone hadds
      obtain rfl : failure = none := hnone
      cases hok
      -- Seeding starts from the empty map, in which nothing holds.
      have hempty : ¬ Facts.empty.Holds q t e := DistinctList.not_mem_empty e
      exact (hadds.facts q t e).trans (or_iff_right hempty)

/-- If the sources of a program can be resolved on all nodes, they can be resolved on the
    application alone, and the facts are then those at the application nodes and the synthetic
    nodes. The two sessions may be configured otherwise as they like and have any history. -/
theorem seed_application_filters (c c' : Config) (p : Program) (hg : p.graph.Built)
    (hall : c.options.includeLibrary = true) (happ : c'.options.includeLibrary = false)
    (before before' : List Request) (sources : List Source) (f : Facts) (count : Nat)
    (hok : (((ofProgram c p).after before).seed sources).result = .ok (f, count)) :
    ∃ f' count', (((ofProgram c' p).after before').seed sources).result = .ok (f', count') ∧
      ∀ q t e, f'.Holds q t e ↔ f.Holds q t e ∧
        ∃ n, p.graph.byId? q.node = some n ∧
          (n.isApplication = true ∨ n.isSynthetic = true) := by
  have hw : p.graph.WellFormed := Graph.built_wellFormed p.graph hg
  rw [seed_after] at hok ⊢
  -- The pairs of the application are the pairs whose node is in the slice.
  have hpairs : ∀ x, x ∈ Resolution.matchingPairs sources (ofProgram c' p).seedNodes ↔
      x ∈ Resolution.matchingPairs sources (ofProgram c p).seedNodes ∧
        (x.1.isApplication = true ∨ x.1.isSynthetic = true) := by
    intro x
    rw [Resolution.mem_matchingPairs, Resolution.mem_matchingPairs, mem_seedNodes c' p hw,
      mem_seedNodes c p hw]
    simp only [Config.Considers, hall, happ, Bool.false_eq_true, true_or, false_or, and_true]
    exact and_right_comm
  -- The node at the point of a fact is the node that the fact comes from.
  have hnode : ∀ x ∈ Resolution.matchingPairs sources (ofProgram c p).seedNodes, ∀ q t e,
      Resolution.SeededBy ⟨p.graph, p.heap c.policy⟩ x.2 x.1 q t e →
        p.graph.byId? q.node = some x.1 := by
    intro x hx q t e hseeded
    have hmem : x.1 ∈ p.graph.nodes :=
      ((mem_seedNodes c p hw x.1).1 ((Resolution.mem_matchingPairs _ _ x).1 hx).1).1
    rw [hw.byId?_eq_some_iff, hseeded.node_eq]
    exact ⟨hmem, hw.id?_eq x.1 hmem⟩
  have hresolvable := (seedUnaided_isOk_iff (ofProgram c p) sources).1 ⟨f, count, hok⟩
  rcases (seedUnaided_isOk_iff (ofProgram c' p) sources).2
    (fun x hx => hresolvable x ((hpairs x).1 hx).1) with ⟨f', count', hok'⟩
  refine ⟨f', count', hok', fun q t e => ?_⟩
  rw [seedUnaided_facts _ sources f' count' hok', seedUnaided_facts _ sources f count hok]
  constructor
  · rintro ⟨x, hx, hseeded⟩
    rcases (hpairs x).1 hx with ⟨hx, hslice⟩
    have hseeded := hseeded.of_alike (p.heap_alike c'.policy c.policy)
    exact ⟨⟨x, hx, hseeded⟩, x.1, hnode x hx q t e hseeded, hslice⟩
  · rintro ⟨⟨x, hx, hseeded⟩, n, hn, hslice⟩
    obtain rfl : x.1 = n := Option.some.inj ((hnode x hx q t e hseeded).symm.trans hn)
    exact ⟨x, (hpairs x).2 ⟨hx, hslice⟩, hseeded.of_alike (p.heap_alike c.policy c'.policy)⟩

/-- The sample program. -/
def callbackProgram : Program where
  graph := .callback
  pointsTo? := some Resolution.callbackEnv.heap.pointsTo
  hierarchy? := none
  warnings := []

/-- An input that names a platform method of the sample. -/
def queueSource : Source := ⟨.ofMethod ⟨"os", "Queue", "next", "()V"⟩, [0], .input⟩

/-- The usual configuration, but with sources in library code. -/
def libraryConfig : Config := { Config.usual with options.includeLibrary := true }

/-- On the sample program the argument of the platform method is tainted as long as library code
    is included. A session that has answered requests before leaves it out on the application. -/
theorem seed_application_filters_callback :
    ∃ n f count f' count', Graph.callback.byId? 2 = some n ∧
      (((ofProgram libraryConfig callbackProgram).after []).seed
        [Resolution.callbackSource, queueSource]).result = .ok (f, count) ∧
      (((ofProgram .usual callbackProgram).after
        [.seed [queueSource], .closure ⟨.ofClass "Data", "new"⟩]).seed
          [Resolution.callbackSource, queueSource]).result = .ok (f', count') ∧
      f.Holds ⟨2, 0⟩ (.entryArg n 0) (.localValue 2 1) ∧
      ¬ f'.Holds ⟨2, 0⟩ (.entryArg n 0) (.localValue 2 1) := by
  have hw : callbackProgram.graph.WellFormed := Graph.built_wellFormed _ Graph.callback_built
  have hresolvable : ∀ x ∈ Resolution.matchingPairs [Resolution.callbackSource, queueSource]
      (ofProgram libraryConfig callbackProgram).seedNodes, Resolution.IsResolvableOn x.2 x.1 := by
    intro x hx
    rcases (Resolution.mem_matchingPairs _ _ x).1 hx with ⟨hn, hs, hmatch⟩
    have hkind : ∀ s ∈ [Resolution.callbackSource, queueSource],
        s.kind = .input ∨ s.kind = .binder := by
      simp [Resolution.callbackSource, queueSource]
    refine ⟨hkind x.2 hs, ?_⟩
    revert hmatch
    exact (by decide : ∀ n ∈ Graph.callback.nodes, ∀ s ∈ [Resolution.callbackSource, queueSource],
      s.matches n = true → ∀ arg ∈ s.args, Resolution.isResolvable n arg = true) x.1 hn x.2 hs
  rcases (seedUnaided_isOk_iff _ _).2 hresolvable with ⟨f, count, hok⟩
  have hall := (seed_after libraryConfig callbackProgram [] _).trans hok
  rcases seed_application_filters libraryConfig .usual callbackProgram Graph.callback_built rfl rfl
    [] [.seed [queueSource], .closure ⟨.ofClass "Data", "new"⟩] _ f count hall with
    ⟨f', count', happ, hfacts⟩
  let queue : Fin Graph.callback.nodes.length := ⟨2, by decide⟩
  have hqueue : Graph.callback.nodes.get queue ∈ Graph.callback.nodes := List.get_mem _ _
  have hfact : Resolution.InputFact ⟨.callback, callbackProgram.heap libraryConfig.policy⟩
      (Graph.callback.nodes.get queue) 0 1 ⟨2, 0⟩
      (.entryArg (Graph.callback.nodes.get queue) 0) (.localValue 2 1) :=
    ⟨by decide, rfl, Or.inl rfl⟩
  refine ⟨Graph.callback.nodes.get queue, f, count, f', count', by decide, hall, happ, ?_, ?_⟩
  · refine (seedUnaided_facts _ _ f count hok _ _ _).2
      ⟨(Graph.callback.nodes.get queue, queueSource), ?_, 0, by decide, 1, by decide,
        Or.inl ⟨rfl, hfact⟩⟩
    rw [Resolution.mem_matchingPairs]
    exact ⟨hqueue, by simp, by decide⟩
  · intro hholds
    rcases ((hfacts _ _ _).1 hholds).2 with ⟨n, hn, hslice⟩
    revert hslice
    exact (by decide : ∀ n, Graph.callback.byId? 2 = some n →
      ¬ (n.isApplication = true ∨ n.isSynthetic = true)) n hn

end Session

end TaintSeed
