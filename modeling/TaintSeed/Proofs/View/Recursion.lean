import TaintSeed.Proofs.View.Cycles

/-!
# Cycles and Components Tell of the Same Recursion

A view reports recursion twice. The figures count the nodes that call
themselves and the components with two nodes or more; the search lists
elementary cycles, each from its least number. The two are computed in
different ways, with three algorithms that need not have anything in common but
that they are correct: one counts numbers, one finds components by walking
through lists of nodes, and one tells the search the components of the numbers
below an order. The two reports have to agree all the same.

From a cycle to a component is the easy direction: the members of a cycle reach
each other. From a component to a cycle there are two obstacles. A way from one
number to another may pass a number twice, and what lies between is cut out
(`exists_route`). And the cycle that is wanted must have a second member, which
a node that calls itself does not grant; so the way has to leave the number at
its first step (`exists_first_step`). The route that results starts anywhere,
and turning it to its least number gives a cycle of the search
(`exists_cycle_of_route`).

The cycles are reported as lists of nodes. A node of a view is known by its
number, so nothing is lost when numbers are replaced by nodes.

## Main definitions

* `View.RecursionAgrees`: The cycles of a view agree with its figures.

## Theorems

* `View.exists_route`: Where there is a way, there is one without repetition.
* `View.exists_cycle_of_route`: A route home is an elementary cycle, turned.
* `View.exists_cycle_iff`: Which numbers lie on a cycle of two numbers or more.
* `View.cycleNodes_agree`: The two reports agree in every derived view.
-/

namespace TaintSeed

namespace View

/-! ## Routes without repetition -/

-- A route through a number is a way to it and a way home from it.
theorem IsRoute.split {v : View} {start x z : NodeId} {path a b : List NodeId}
    (h : v.IsRoute start path x (a ++ z :: b)) :
    (x :: (a ++ [z])).IsChain (fun a b => v.hasEdge a b = true) ∧
      (z :: (b ++ [start])).IsChain (fun a b => v.hasEdge a b = true) := by
  have hchain : (x :: a ++ z :: (b ++ [start])).IsChain (fun a b => v.hasEdge a b = true) := by
    have hroute := h.chain
    rw [List.append_assoc] at hroute
    exact hroute
  exact List.isChain_split.1 hchain

/-- From a number on a route the rest of it leads home. -/
theorem IsRoute.exists_rest {v : View} {start x z : NodeId} {q : List NodeId}
    (h : v.IsRoute start [] x q) (hz : z ∈ q) : ∃ r, v.IsRoute start [] z r := by
  rcases List.append_of_mem hz with ⟨a, b, rfl⟩
  have hnodup := List.nodup_append.1 h.nodup
  rw [List.nodup_cons] at hnodup
  refine ⟨b, h.split.2, hnodup.2.1.2, fun hc => ?_, fun w hw hc => ?_⟩
  · exact h.home (List.mem_append_right a (List.mem_cons_of_mem z hc))
  · rw [List.mem_singleton.1 hc] at hw
    exact hnodup.2.1.1 hw

/-- Where there is a way there is a route. By induction on the way from its end: a first step is
    put before the route that is there, unless that route comes back to where the step starts. -/
theorem exists_route {v : View} {x start : NodeId} (h : v.Reaches x start) :
    ∃ q, v.IsRoute start [] x q := by
  induction h using Relation.TransGen.head_induction_on with
  | single hedge => exact ⟨[], (isRoute_nil v start [] _).2 hedge⟩
  | @head x c hedge _ ih =>
      rcases ih with ⟨q, hq⟩
      by_cases hstart : c = start
      · subst hstart
        exact ⟨[], (isRoute_nil v c [] x).2 hedge⟩
      · by_cases hback : x ∈ c :: q
        · -- The detour is cut out.
          rcases List.mem_cons.1 hback with rfl | hmem
          · exact ⟨q, hq⟩
          · exact hq.exists_rest hmem
        · rw [List.mem_cons, not_or] at hback
          refine ⟨c :: q, (isRoute_cons v start [] x c q).2 ⟨hedge, hstart, ?_, ?_⟩⟩
          · exact fun hc => hback.1 (List.mem_singleton.1 hc).symm
          · refine ⟨hq.chain, hq.nodup, hq.home, fun z hz hc => ?_⟩
            rcases List.mem_cons.1 hc with rfl | hc
            · exact hq.path z hz List.mem_cons_self
            · rw [List.mem_singleton.1 hc] at hz
              exact hback.2 hz

/-- A way to another number leaves the first one at some step. -/
theorem exists_first_step {v : View} {x y : NodeId} (h : v.Reaches x y) (hne : x ≠ y) :
    ∃ w, w ≠ x ∧ v.hasEdge x w = true ∧ (w = y ∨ v.Reaches w y) := by
  induction h using Relation.TransGen.head_induction_on with
  | single hedge => exact ⟨y, Ne.symm hne, hedge, Or.inl rfl⟩
  | @head x c hedge hrest ih =>
      by_cases hc : c = x
      · subst hc
        exact ih hne
      · exact ⟨c, hc, hedge, Or.inr hrest⟩

/-! ## From routes to cycles -/

theorem turned_perm (x m : NodeId) (a b : List NodeId) :
    (m :: (b ++ x :: a)).Perm (x :: (a ++ m :: b)) := by
  have hperm : (m :: b ++ x :: a).Perm (x :: a ++ m :: b) := List.perm_append_comm
  exact hperm

/-- A route from a number home to it can be turned so that it starts from another of its numbers. -/
theorem IsRoute.turn {v : View} {x m : NodeId} {a b : List NodeId}
    (h : v.IsRoute x [] x (a ++ m :: b)) : v.IsRoute m [] m (b ++ x :: a) := by
  have hnodup := (turned_perm x m a b).nodup_iff.2 (List.nodup_cons.2 ⟨h.home, h.nodup⟩)
  rw [List.nodup_cons] at hnodup
  refine ⟨?_, hnodup.2, hnodup.1, fun z hz hc => hnodup.1 (List.mem_singleton.1 hc ▸ hz)⟩
  have hchain : (m :: b ++ x :: (a ++ [m])).IsChain (fun a b => v.hasEdge a b = true) :=
    List.isChain_split.2 ⟨h.split.2, h.split.1⟩
  rw [List.append_assoc]
  exact hchain

/-- A route from a number home to it is an elementary cycle, turned. -/
theorem exists_cycle_of_route {v : View} {x : NodeId} {q : List NodeId}
    (h : v.IsRoute x [] x q) : ∃ c, v.IsElementaryCycle c ∧ ∀ z, z ∈ c ↔ z ∈ x :: q := by
  -- A route from its least number is a cycle as it stands.
  have hstands : ∀ (m : NodeId) (r : List NodeId), v.IsRoute m [] m r → (∀ z ∈ r, m ≤ z) →
      v.IsElementaryCycle (m :: (r ++ [m])) ∧ ∀ z, z ∈ m :: (r ++ [m]) ↔ z ∈ m :: r := by
    intro m r hr hle
    refine ⟨(isElementaryCycle_iff v _).2 ⟨m, r, rfl, hr, fun z hz => ?_⟩, fun z => ?_⟩
    · refine lt_of_le_of_ne (hle z hz) ?_
      rintro rfl
      exact hr.home hz
    · simp only [List.mem_cons, List.mem_append, List.not_mem_nil, or_false]
      tauto
  cases hleast : (x :: q).min? with
  | none => exact absurd (List.min?_eq_none_iff.1 hleast) (List.cons_ne_nil x q)
  | some m =>
      rcases List.min?_eq_some_iff.1 hleast with ⟨hm, hle⟩
      rcases List.mem_cons.1 hm with rfl | hm
      · exact ⟨_, hstands m q h (fun z hz => hle z (List.mem_cons_of_mem m hz))⟩
      · rcases List.append_of_mem hm with ⟨a, b, rfl⟩
        have hsame := turned_perm x m a b
        have hturned := hstands m (b ++ x :: a) h.turn
          (fun z hz => hle z (hsame.mem_iff.1 (List.mem_cons_of_mem m hz)))
        exact ⟨_, hturned.1, fun z => (hturned.2 z).trans hsame.mem_iff⟩

/-! ## Cycles and components -/

-- The numbers of a route home are connected with the number that it starts from.
theorem IsRoute.connected {v : View} {x : NodeId} {q : List NodeId}
    (h : v.IsRoute x [] x q) {z : NodeId} (hz : z ∈ x :: (q ++ [x])) : v.Connected x z := by
  rcases List.mem_cons.1 hz with rfl | hz
  · exact Or.inl rfl
  · rcases List.mem_append.1 hz with hz | hz
    · exact Or.inr (h.reaches_of_mem hz)
    · exact Or.inl (List.mem_singleton.1 hz).symm

/-- The members of an elementary cycle are connected. -/
theorem connected_of_mem_cycle {v : View} {c : List NodeId} (hc : v.IsElementaryCycle c)
    {x y : NodeId} (hx : x ∈ c) (hy : y ∈ c) : v.Connected x y := by
  rcases (isElementaryCycle_iff v c).1 hc with ⟨least, q, rfl, hq, _⟩
  exact (hq.connected hx).symm.trans (hq.connected hy)

/-- Two numbers that are connected: the first lies on a cycle of at least two numbers. -/
theorem exists_cycle_of_connected {v : View} {x y : NodeId} (h : v.Connected x y) (hne : y ≠ x) :
    ∃ c, v.IsElementaryCycle c ∧ x ∈ c ∧ ∃ w ∈ c, w ≠ x := by
  rcases h with rfl | ⟨hxy, hyx⟩
  · exact absurd rfl hne
  · rcases exists_first_step hxy (Ne.symm hne) with ⟨w, hw, hedge, hto⟩
    have hback : v.Reaches w x := by
      rcases hto with rfl | hto
      · exact hyx
      · exact hto.trans hyx
    rcases exists_route hback with ⟨q, hq⟩
    -- The step away from `x`, then the route home to it.
    have hround : v.IsRoute x [] x (w :: q) := by
      refine (isRoute_cons v x [] x w q).2 ⟨hedge, hw, ?_, hq.chain, hq.nodup, hq.home, ?_⟩
      · exact fun hc => hw (List.mem_singleton.1 hc)
      · intro z hz hc
        rcases List.mem_cons.1 hc with rfl | hc
        · exact hq.path z hz List.mem_cons_self
        · exact hq.home (List.mem_singleton.1 hc ▸ hz)
    rcases exists_cycle_of_route hround with ⟨c, hc, hmem⟩
    exact ⟨c, hc, (hmem x).2 List.mem_cons_self, w,
      (hmem w).2 (List.mem_cons_of_mem x List.mem_cons_self), hw⟩

/-- A number lies on a cycle of two numbers or more when it lies in a component of two or more. -/
theorem exists_cycle_iff {groups : Directed → List (List NodeId)} (hgroups : FindsGroups groups)
    {v : View} (hv : v.WellFormed) (x : NodeId) :
    (∃ c, v.IsElementaryCycle c ∧ x ∈ c ∧ ∃ y ∈ c, y ≠ x) ↔
      ∃ k ∈ groups v.directed, 1 < k.length ∧ x ∈ k := by
  rw [exists_group_iff hgroups hv]
  constructor
  · rintro ⟨c, hc, hx, y, hy, hne⟩
    exact ⟨y, hne, connected_of_mem_cycle hc hx hy⟩
  · rintro ⟨y, hne, h⟩
    exact exists_cycle_of_connected h hne

/-- The cycles with one edge are those of the numbers that call themselves. -/
theorem isElementaryCycle_pair_iff (v : View) (c : List NodeId) :
    v.IsElementaryCycle c ∧ c.length = 2 ↔ ∃ x, v.hasEdge x x = true ∧ c = [x, x] := by
  rw [isElementaryCycle_iff]
  constructor
  · rintro ⟨⟨x, q, rfl, hq, _⟩, hlen⟩
    have hnil : q = [] := by
      rw [List.length_cons, List.length_append, List.length_singleton] at hlen
      exact List.length_eq_zero_iff.1 (by omega)
    subst hnil
    exact ⟨x, (isRoute_nil v x [] x).1 hq, rfl⟩
  · rintro ⟨x, hloop, rfl⟩
    exact ⟨⟨x, [], rfl, (isRoute_nil v x [] x).2 hloop, fun z hz => absurd hz List.not_mem_nil⟩,
      rfl⟩

/-- A cycle has one edge or two members that differ. -/
theorem IsElementaryCycle.pair_or_two {v : View} {c : List NodeId} (hc : v.IsElementaryCycle c) :
    c.length = 2 ∨ ∃ x ∈ c, ∃ y ∈ c, y ≠ x := by
  rcases (isElementaryCycle_iff v c).1 hc with ⟨x, q, rfl, hq, _⟩
  cases q with
  | nil => exact Or.inl rfl
  | cons y q =>
      have hy : y ≠ x := ((isRoute_cons v x [] x y q).1 hq).2.1
      exact Or.inr ⟨x, List.mem_cons_self, y, List.mem_cons_of_mem x List.mem_cons_self, hy⟩

/-! ## Cycles of nodes -/

theorem mem_filterMap_node?_iff {v : View} (hv : v.WellFormed) (c : List NodeId) (n : Node) :
    n ∈ c.filterMap v.node? ↔ v.contains n = true ∧ n.id ∈ c := by
  rw [List.mem_filterMap]
  constructor
  · rintro ⟨x, hx, hn⟩
    rcases (hv.node?_eq_some_iff x n).1 hn with ⟨hc, rfl⟩
    exact ⟨hc, hx⟩
  · rintro ⟨hc, hx⟩
    exact ⟨n.id, hx, (hv.node?_eq_some_iff n.id n).2 ⟨hc, rfl⟩⟩

/-- Numbers tell the nodes of a view apart. -/
theorem WellFormed.eq_of_contains {v : View} (hv : v.WellFormed) {m n : Node}
    (hm : v.contains m = true) (hn : v.contains n = true) (hid : m.id = n.id) : m = n := by
  have hm' := (hv.node?_eq_some_iff m.id m).2 ⟨hm, rfl⟩
  rw [hid, (hv.node?_eq_some_iff n.id n).2 ⟨hn, rfl⟩, Option.some.injEq] at hm'
  exact hm'.symm

/-- The reported cycles of nodes agree with the figures of the view and with its components, of
    which those with two members or more count as recursive. -/
structure RecursionAgrees (v : View) (cycles : List (List Node)) (s : Stats)
    (groups : List (List NodeId)) : Prop where
  /-- No cycle is reported if no node calls itself and there is no recursive component. -/
  empty : cycles = [] ↔ s.loops = 0 ∧ s.recursive = 0
  /-- The cycles with one edge are those of the nodes that call themselves. -/
  loops : ∀ c, c ∈ cycles ∧ c.length = 2 ↔
    ∃ n, v.contains n = true ∧ v.hasEdge n.id n.id = true ∧ c = [n, n]
  /-- There are as many of them as the figures say. -/
  countLoops : cycles.countP (fun c => c.length == 2) = s.loops
  /-- There are as many recursive components as the figures say. -/
  countGroups : groups.countP (fun k => decide (1 < k.length)) = s.recursive
  /-- The nodes on cycles with another node are those of the recursive components. -/
  members : ∀ n, (∃ c ∈ cycles, n ∈ c ∧ ∃ m ∈ c, m ≠ n) ↔
    v.contains n = true ∧ ∃ k ∈ groups, 1 < k.length ∧ n.id ∈ k
  /-- Two nodes of one cycle belong to one component. -/
  together : ∀ c ∈ cycles, ∀ m ∈ c, ∀ n ∈ c, m ≠ n →
    ∃ k ∈ groups, 1 < k.length ∧ m.id ∈ k ∧ n.id ∈ k

theorem recursive_statsBy (check : Iterator → Iterator.Check)
    (groups : Directed → List (List NodeId)) (v : View) :
    (v.statsBy check groups).recursive
      = (groups v.directed).countP (fun k => decide (1 < k.length)) := by
  rw [List.countP_eq_length_filter, ← Nat.zero_add (List.length _), ← foldl_recursive]
  rfl

section Derived

variable {find : Iterator → List (List NodeId)} (hfind : FindsComponents find)
  {check : Iterator → Iterator.Check} (hcheck : CountsNumbers check)
  {groups : Directed → List (List NodeId)} (hgroups : FindsGroups groups)
  {g : Graph} {v : View} (hv : v.DerivedFrom g)
include hv

-- A cycle keeps its length when its numbers are replaced by nodes.
theorem length_nodes_of_cycle {ids : List NodeId} (hc : v.IsElementaryCycle ids) :
    (ids.filterMap v.node?).length = ids.length := by
  refine length_filterMap_node? v hv.wellFormed ids (fun x hx => ?_)
  rcases (isElementaryCycle_iff v ids).1 hc with ⟨y, q, rfl, hq, _⟩
  exact hq.mem_keys hv.wellFormed x hx

include hfind

theorem mem_cyclesBy_zero_iff (ids : List NodeId) :
    ids ∈ v.cyclesBy find 0 ↔ v.IsElementaryCycle ids := by
  rw [cyclesBy_of_nonpos hfind v hv.wellFormed hv.inRange 0 (le_refl 0),
    mem_circuits_iff hfind v hv.wellFormed hv.inRange]

theorem mem_nodesOf_iff (c : List Node) :
    c ∈ v.nodesOf (v.cyclesBy find 0) ↔
      ∃ ids, v.IsElementaryCycle ids ∧ ids.filterMap v.node? = c := by
  rw [nodesOf, List.mem_map]
  exact exists_congr (fun ids => and_congr (mem_cyclesBy_zero_iff hfind hv ids) Iff.rfl)

/-- The cycles of nodes with one edge are those of the nodes that call themselves. -/
theorem mem_nodesOf_pair_iff (c : List Node) :
    c ∈ v.nodesOf (v.cyclesBy find 0) ∧ c.length = 2 ↔
      ∃ n, v.contains n = true ∧ v.hasEdge n.id n.id = true ∧ c = [n, n] := by
  have hw := hv.wellFormed
  rw [mem_nodesOf_iff hfind hv]
  constructor
  · rintro ⟨⟨ids, hc, rfl⟩, hlen⟩
    rw [length_nodes_of_cycle hv hc] at hlen
    rcases (isElementaryCycle_pair_iff v ids).1 ⟨hc, hlen⟩ with ⟨x, hloop, rfl⟩
    rcases hw.exists_node x (hw.starts x x hloop) with ⟨n, hn, _⟩
    rcases (hw.node?_eq_some_iff x n).1 hn with ⟨hin, rfl⟩
    exact ⟨n, hin, hloop, by simp [hn]⟩
  · rintro ⟨n, hin, hloop, rfl⟩
    have hn : v.node? n.id = some n := (hw.node?_eq_some_iff n.id n).2 ⟨hin, rfl⟩
    have hpair := (isElementaryCycle_pair_iff v _).2 ⟨n.id, hloop, rfl⟩
    exact ⟨⟨[n.id, n.id], hpair.1, by simp [hn]⟩, rfl⟩

/-- A node lies on a cycle with another node when its number lies on a cycle with another number:
    that number has a node too, because it can be reached. -/
theorem exists_nodesOf_iff (n : Node) :
    (∃ c ∈ v.nodesOf (v.cyclesBy find 0), n ∈ c ∧ ∃ m ∈ c, m ≠ n) ↔
      v.contains n = true ∧ ∃ ids, v.IsElementaryCycle ids ∧ n.id ∈ ids ∧ ∃ y ∈ ids, y ≠ n.id := by
  have hw := hv.wellFormed
  simp only [mem_nodesOf_iff hfind hv]
  constructor
  · rintro ⟨_, ⟨ids, hc, rfl⟩, hn, m, hm, hne⟩
    rcases (mem_filterMap_node?_iff hw ids n).1 hn with ⟨hn, hnid⟩
    rcases (mem_filterMap_node?_iff hw ids m).1 hm with ⟨hm, hmid⟩
    exact ⟨hn, ids, hc, hnid, m.id, hmid, fun hid => hne (hw.eq_of_contains hm hn hid)⟩
  · rintro ⟨hn, ids, hc, hnid, y, hy, hne⟩
    rcases connected_of_mem_cycle hc hnid hy with hid | ⟨hto, _⟩
    · exact absurd hid.symm hne
    · rcases hw.exists_node y (hto.mem_keys hw).2 with ⟨m, hm, _⟩
      rcases (hw.node?_eq_some_iff y m).1 hm with ⟨hin, rfl⟩
      refine ⟨_, ⟨ids, hc, rfl⟩, (mem_filterMap_node?_iff hw ids n).2 ⟨hn, hnid⟩, m,
        (mem_filterMap_node?_iff hw ids m).2 ⟨hin, hy⟩, ?_⟩
      rintro rfl
      exact hne rfl

include hcheck

/-- As many cycles with one edge are found as numbers that call themselves are counted. -/
theorem countP_cycles_eq_loops :
    (v.cyclesBy find 0).countP (fun c => c.length == 2) = (v.statsBy check groups).loops := by
  have hw := hv.wellFormed
  -- Both count the same set, one of them through the lists `[x, x]`.
  have hcounted := (hcheck v.iterator (iterator_isProper hw hv.inRange)).1
  have hlisted : HasSize {x | v.iterator.Has x ∧ x ∈ v.iterator.visit x}
      (v.keys.filter (fun x => v.hasEdge x x)).length := by
    refine hasSize_length _ _ (hw.nodup.filter _) (fun x => ?_)
    rw [Set.mem_ofPred_eq, mem_visit_iterator hw, List.mem_filter, ← isInRange_iff]
    exact ⟨fun h => ⟨hw.starts x x h.2, h.2⟩, fun h => ⟨hv.inRange x h.1, h.2⟩⟩
  have hloops : (v.statsBy check groups).loops
      = ((v.keys.filter (fun x => v.hasEdge x x)).map (fun x => [x, x])).length := by
    rw [List.length_map]
    exact Int.ofNat.inj (hcounted.2.symm.trans hlisted.2)
  rw [hloops, List.countP_eq_length_filter,
    cyclesBy_of_nonpos hfind v hw hv.inRange 0 (le_refl 0)]
  refine length_eq_of_mem_iff _ _ ((circuits_nodup hfind v hw hv.inRange).filter _) ?_
    (fun c => ?_)
  · exact (hw.nodup.filter _).map (fun x y h => (List.cons.inj h).1)
  · rw [List.mem_filter, mem_circuits_iff hfind v hw hv.inRange, beq_iff_eq,
      isElementaryCycle_pair_iff, List.mem_map]
    refine exists_congr (fun x => ?_)
    rw [List.mem_filter]
    exact ⟨fun h => ⟨⟨hw.starts x x h.1, h.1⟩, h.2.symm⟩, fun h => ⟨h.1.2, h.2.symm⟩⟩

include hgroups

theorem cyclesBy_eq_nil_iff :
    v.cyclesBy find 0 = [] ↔
      (v.statsBy check groups).loops = 0 ∧ (v.statsBy check groups).recursive = 0 := by
  have hw := hv.wellFormed
  have hmem := mem_cyclesBy_zero_iff hfind hv
  have hloops : (v.cyclesBy find 0).countP (fun c => c.length == 2)
      = (v.statsBy check groups).loops := countP_cycles_eq_loops hfind hcheck hv
  rw [recursive_statsBy, List.countP_eq_zero]
  constructor
  · intro hnil
    have hnone : ∀ c, ¬v.IsElementaryCycle c := by
      intro c hc
      have hin := (hmem c).2 hc
      rw [hnil] at hin
      exact List.not_mem_nil hin
    refine ⟨?_, fun k hk hlen => ?_⟩
    · rw [← hloops, hnil]
      rfl
    · -- A recursive component would have a cycle through each of its numbers.
      rcases List.exists_mem_of_ne_nil k ((hw.areGroups hgroups).nonempty k hk) with ⟨x, hx⟩
      rcases (exists_cycle_iff hgroups hw x).2 ⟨k, hk, of_decide_eq_true hlen, hx⟩ with ⟨c, hc, _⟩
      exact hnone c hc
  · rintro ⟨hnoLoops, hnoGroups⟩
    refine List.eq_nil_iff_forall_not_mem.2 (fun c hin => ?_)
    have hc := (hmem c).1 hin
    rcases hc.pair_or_two with hpair | ⟨x, hx, y, hy, hne⟩
    · rw [← hloops, List.countP_eq_zero] at hnoLoops
      exact hnoLoops c hin (beq_iff_eq.2 hpair)
    · rcases (exists_cycle_iff hgroups hw x).1 ⟨c, hc, hx, y, hy, hne⟩ with ⟨k, hk, hlen, _⟩
      exact hnoGroups k hk (decide_eq_true hlen)

end Derived

/-- In every view that is made from a call graph by taking parts, the cycles that are found and the
    figures tell of the same recursion, whatever correct algorithms they are computed with. They
    are what the library reports if there is room for the numbers of the graph. -/
theorem cycleNodes_agree (find : Iterator → List (List NodeId)) (hfind : FindsComponents find)
    (check : Iterator → Iterator.Check) (hcheck : CountsNumbers check)
    (groups : Directed → List (List NodeId)) (hgroups : FindsGroups groups) (g : Graph) (v : View)
    (hv : v.DerivedFrom g) :
    ((g.size : Int) ≤ 2 ^ 45 → v.stats? = .ok (v.statsBy check groups) ∧
        v.cycles? 0 = .ok (v.cyclesBy find 0)) ∧
      v.RecursionAgrees (v.nodesOf (v.cyclesBy find 0)) (v.statsBy check groups)
        (groups v.directed) := by
  have hw := hv.wellFormed
  have hr := hv.inRange
  refine ⟨fun hroom => ⟨?_, ?_⟩, ?_⟩
  · rw [statsBy_eq_stats hcheck hgroups hv, stats?_eq_ok g v hv hroom]
  · rw [cyclesBy_eq_cycles hfind v hw hr, cycles?_eq_ok g v hv 0 hroom]
  constructor
  case empty =>
    rw [nodesOf, List.map_eq_nil_iff, cyclesBy_eq_nil_iff hfind hcheck hgroups hv]
  case loops => exact mem_nodesOf_pair_iff hfind hv
  case countLoops =>
    rw [nodesOf, List.countP_map, ← countP_cycles_eq_loops hfind hcheck hv]
    refine List.countP_congr (fun c hc => ?_)
    rw [Function.comp_apply,
      length_nodes_of_cycle hv ((mem_cyclesBy_zero_iff hfind hv c).1 hc)]
  case countGroups => exact (recursive_statsBy check groups v).symm
  case members =>
    intro n
    rw [exists_nodesOf_iff hfind hv, exists_cycle_iff hgroups hw]
  case together =>
    intro c hc m hm n hn hne
    rcases (mem_nodesOf_iff hfind hv c).1 hc with ⟨ids, hcycle, rfl⟩
    rcases (mem_filterMap_node?_iff hw ids m).1 hm with ⟨hm, hmid⟩
    rcases (mem_filterMap_node?_iff hw ids n).1 hn with ⟨hn, hnid⟩
    exact exists_group hgroups hw (fun hid => hne (hw.eq_of_contains hm hn hid))
      (connected_of_mem_cycle hcycle hmid hnid)

/-- In the sample a node calls itself and three nodes form a circle. The node that is called from
    there and calls nothing is on no cycle. -/
theorem cycleNodes_agree_callback :
    (ofGraph .callback).DerivedFrom .callback ∧ FindsComponents Iterator.components ∧
    CountsNumbers Iterator.check ∧ FindsGroups Directed.groups ∧
    (ofGraph .callback).stats? = .ok ⟨4, 5, 1, 1, 1⟩ ∧
    ((ofGraph .callback).nodesOf ((ofGraph .callback).cyclesBy Iterator.components 0)).countP
      (fun c => c.length == 2) = 1 ∧
    (∃ c ∈ (ofGraph .callback).nodesOf ((ofGraph .callback).cyclesBy Iterator.components 0),
      ∃ m ∈ c, ∃ n ∈ c, m.id = 0 ∧ n.id ≠ 0) ∧
    ∀ n, n.id = 3 → ¬∃ c ∈ (ofGraph .callback).nodesOf
      ((ofGraph .callback).cyclesBy Iterator.components 0), n ∈ c ∧ ∃ m ∈ c, m ≠ n := by
  have hv : (ofGraph .callback).DerivedFrom .callback := .whole Graph.callback_built (by decide)
  have hstats : (ofGraph .callback).statsBy Iterator.check Directed.groups = ⟨4, 5, 1, 1, 1⟩ := by
    rw [statsBy, directed_eq]
    cbv
  have hgroups : Directed.groups (ofGraph .callback).directed = [[1, 2, 0], [3]] := by
    rw [directed_eq]
    cbv
  rcases cycleNodes_agree _ findsComponents _ countsNumbers _ findsGroups .callback
    (ofGraph .callback) hv with ⟨hok, hagree⟩
  rw [hstats] at hok hagree
  rw [hgroups] at hagree
  refine ⟨hv, findsComponents, countsNumbers, findsGroups, (hok (by decide)).1,
    hagree.countLoops, ?_, fun n hid hc => ?_⟩
  · let looper : Fin Graph.callback.nodes.length := ⟨0, by decide⟩
    have hlooper : (ofGraph .callback).contains (Graph.callback.nodes.get looper) = true := by cbv
    rcases (hagree.members _).2 ⟨hlooper, [1, 2, 0], by decide, by decide, by decide⟩ with
      ⟨c, hc, hin, m, hm, hne⟩
    refine ⟨c, hc, _, hin, m, hm, rfl, fun hid => hne ?_⟩
    rcases (mem_nodesOf_iff findsComponents hv c).1 hc with ⟨ids, _, rfl⟩
    have hm' := ((mem_filterMap_node?_iff hv.wellFormed ids m).1 hm).1
    exact hv.wellFormed.eq_of_contains hm' hlooper hid
  · rcases (hagree.members n).1 hc with ⟨_, k, hk, hlen, hin⟩
    rcases List.mem_cons.1 hk with rfl | hk
    · rw [hid] at hin
      exact absurd hin (by decide)
    · rw [List.mem_singleton.1 hk] at hlen
      exact absurd hlen (by decide)

end View

end TaintSeed
