import TaintSeed.Proofs.Source.Resolution

/-!
# What a Failed Resolution Leaves

Sources are resolved in nested loops, and an error ends all of them at once. By
then a part of the facts has been recorded, and nothing takes it back. This
module says when there is an error, and which facts are there afterwards.

Whether a source can be resolved on a node depends on the two alone, on the kind
of the source and on the parameters of the node. So there is an error exactly if
some pair of a node and a source that names it is bad, in whatever order they
are listed (`FailsOn`). Which error it is does depend on the order, by the
number of the node and then by the position of the source, and `FirstFailure`
says which pair comes first without reference to the sorted list of pairs.
Nodes of one graph are told apart by their numbers, so the nodes before it are
those with a smaller number, however often they are listed.

All the pairs before it have been resolved in full. Of the pair itself the
arguments before the first bad one have been, if it has an argument that is bad;
a source of an unknown kind is refused before any argument is looked at.

## Main definitions

* `Node.LacksArgument`: The node has no such argument.
* `Resolution.FailsOn`: A source names a node on which it cannot be resolved.
* `Resolution.FirstFailure`: The first pair that fails.
* `Resolution.untilBad`: A source with the arguments before the first bad one.
* `Resolution.StopsAt`: What a resolution leaves that stops at a pair.

## Theorems

* `Resolution.resolve_adds_untilBad`: What a source adds on a node, failing or not.
* `Resolution.resolvePairs_append`: Pairs that can be resolved are resolved before the others.
* `Resolution.exists_firstFailure`: Where a pair fails, one is the first.
* `Resolution.stopsAt_of_firstFailure`: The resolution stops there.
* `Resolution.resolveAll_failure_exact`: When a resolution fails, and what it leaves.
-/

namespace TaintSeed

/-! ## Arguments that are not there -/

/-- The node has no parameter at the position, or one that is no value. -/
def Node.LacksArgument (n : Node) (arg : Int) : Prop :=
  arg < 0 ∨ (n.params.length : Int) ≤ arg ∨ ∃ v ∈ n.params[arg.toNat]?, v < 0

instance (n : Node) (arg : Int) : Decidable (n.LacksArgument arg) :=
  inferInstanceAs (Decidable (_ ∨ _ ∨ _))

namespace Resolution

/-- On a node with a number, the arguments that can be resolved are those that it does not lack. -/
theorem isResolvable_iff_not_lacksArgument (n : Node) (hid : 0 ≤ n.id) (arg : Int) :
    isResolvable n arg = true ↔ ¬ n.LacksArgument arg := by
  simp only [isResolvable_iff, argument_eq_ok_iff, hid, true_and, Node.nth?, Node.LacksArgument]
  by_cases hneg : arg < 0
  · simp [hneg]
  · cases hparam : n.params[arg.toNat]? with
    | none =>
        have hout : (n.params.length : Int) ≤ arg := by
          have := List.getElem?_eq_none_iff.1 hparam
          omega
        simp [hneg, hout]
    | some v =>
        have hin : ¬ (n.params.length : Int) ≤ arg := by
          have := (List.getElem?_eq_some_iff.1 hparam).1
          omega
        simp [hneg, hin]

/-- An input or a binder fails on a node only for an argument. -/
theorem resolve_failure (env : Env) (s : Source) (n : Node) (r : Resolution) (e : Failure)
    (hkind : s.kind = .input ∨ s.kind = .binder) (he : (resolve env s n r).2 = some e) :
    ∃ bad, e = .badArgument s bad := by
  unfold resolve at he
  rcases hkind with hkind | hkind
  all_goals
    simp only [hkind, Option.map_eq_some_iff] at he
    rcases he with ⟨bad, _, rfl⟩
    exact ⟨bad, rfl⟩

/-- So do pairs of a node with an input or a binder. By induction on the list: the failure is that
    of its first pair or of a later one. -/
theorem resolvePairs_failure (env : Env) (pairs : List (Node × Source)) (count : Nat)
    (r : Resolution) (e : Stopped)
    (hkind : ∀ x ∈ pairs, x.2.kind = .input ∨ x.2.kind = .binder)
    (he : (resolvePairs env pairs count r).2.2 = some e) :
    ∃ bad, e.cause = .badArgument e.source bad := by
  induction pairs generalizing count r with
  | nil => cases he
  | cons x pairs ih =>
      rcases x with ⟨n, s⟩
      rcases List.forall_mem_cons.1 hkind with ⟨hs, hpairs⟩
      rw [resolvePairs] at he
      cases hres : resolve env s n
          (r.report (env.heap.policy.debug (s.text ++ " matches " ++ n.text))) with
      | mk r' failure =>
          rw [hres] at he
          cases failure with
          | some cause =>
              cases he
              exact resolve_failure env s n _ cause hs (by rw [hres])
          | none => exact ih (count + 1) r' hpairs he

theorem resolveArgs_ending (n : Node) (step step' : Int → Int → Resolution → Resolution)
    (args : List Int) (r r' : Resolution) :
    (resolveArgs n step args r).2 = (resolveArgs n step' args r').2 := by
  induction args generalizing r r' with
  | nil => rfl
  | cons arg args ih =>
      unfold resolveArgs
      cases argument n arg with
      | error e => rfl
      | ok v => exact ih _ _

theorem resolve_ending (env env' : Env) (s : Source) (n : Node) (r r' : Resolution) :
    (resolve env s n r).2 = (resolve env' s n r').2 := by
  unfold resolve
  cases s.kind with
  | input => exact congrArg (Option.map _) (resolveArgs_ending n _ _ s.args r r')
  | binder => exact congrArg (Option.map _) (resolveArgs_ending n _ _ s.args r r')
  | other kind => rfl

/-- Where a resolution ends, and why, is read off the pairs: neither what is known about objects
    nor what was found before has a part in it. -/
theorem resolvePairs_ending (env env' : Env) (pairs : List (Node × Source)) (count : Nat)
    (r r' : Resolution) :
    (resolvePairs env pairs count r).2 = (resolvePairs env' pairs count r').2 := by
  induction pairs generalizing count r r' with
  | nil => rfl
  | cons x pairs ih =>
      rcases x with ⟨n, s⟩
      rw [resolvePairs, resolvePairs]
      generalize r.report _ = u
      generalize r'.report _ = u'
      have hends := resolve_ending env env' s n u u'
      revert hends
      rcases resolve env s n u with ⟨u, failure⟩
      rcases resolve env' s n u' with ⟨u', failure'⟩
      intro hends
      obtain rfl : failure = failure' := hends
      cases failure with
      | some e => rfl
      | none => exact ih (count + 1) u u'

-- Why the argument is bad does not get into the chain.
@[simp] theorem BadArgument.chain_eq (e : BadArgument) : e.chain = [.badArgument] := by
  cases e <;> rfl

/-! ## Pairs that fail -/

/-- The source names the node, and its kind is unknown or an argument of it is not there. -/
def FailsOn (s : Source) (n : Node) : Prop :=
  s.matches n = true ∧
    (s.kind ≠ .input ∧ s.kind ≠ .binder ∨ ∃ arg ∈ s.args, n.LacksArgument arg)

instance (s : Source) (n : Node) : Decidable (FailsOn s n) :=
  inferInstanceAs (Decidable (_ ∧ (_ ∨ ∃ arg ∈ s.args, _)))

theorem isResolvableOn_iff_not_failsOn (s : Source) (n : Node) (hid : 0 ≤ n.id)
    (hmatch : s.matches n = true) : IsResolvableOn s n ↔ ¬FailsOn s n := by
  have hkind : (s.kind = .input ∨ s.kind = .binder) ↔ ¬(s.kind ≠ .input ∧ s.kind ≠ .binder) := by
    rw [not_and_or, not_not, not_not]
  simp only [IsResolvableOn, FailsOn, isResolvable_iff_not_lacksArgument n hid, hmatch, true_and,
    not_or]
  refine and_congr hkind ?_
  simp only [not_exists, not_and]

/-- A source that fails on a node is refused there, for its kind if that is unknown and else for an
    argument. -/
theorem resolve_of_failsOn (env : Env) (s : Source) (n : Node) (r : Resolution) (hid : 0 ≤ n.id)
    (hfails : FailsOn s n) :
    ∃ e, (resolve env s n r).2 = some e ∧
      (s.kind ≠ .input ∧ s.kind ≠ .binder → e = .unimplemented s) ∧
      (s.kind = .input ∨ s.kind = .binder → ∃ bad, e = .badArgument s bad) := by
  cases he : (resolve env s n r).2 with
  | none =>
      have hresolved := (resolve_eq_none_iff env s n r).1 he
      exact absurd hfails ((isResolvableOn_iff_not_failsOn s n hid hfails.1).1 hresolved)
  | some e =>
      refine ⟨e, rfl, ?_, fun hkind => resolve_failure env s n r e hkind he⟩
      rintro ⟨hinput, hbinder⟩
      unfold resolve at he
      cases hk : s.kind with
      | input => exact absurd hk hinput
      | binder => exact absurd hk hbinder
      | other code =>
          simp only [hk] at he
          exact (Option.some.inj he).symm

/-- The source with the arguments before the first that the node lacks. -/
def untilBad (s : Source) (n : Node) : Source :=
  { s with args := s.args.takeWhile (fun arg => decide ¬n.LacksArgument arg) }

/-- Arguments are resolved up to the first that the node lacks, and add the facts of their values. -/
theorem resolveArgs_adds_untilBad (env : Env) (n : Node) (hid : 0 ≤ n.id)
    (step : Int → Int → Resolution → Resolution)
    (F : Int → Int → ProgramPoint → Flow → Element → Prop)
    (hstep : ∀ (arg v : Int) (r : Resolution), r.Sound env → Adds env r (step arg v r) (F arg v))
    (s : Source) (r : Resolution) (hr : r.Sound env) :
    Adds env r (resolveArgs n step s.args r).1 (fun p t e =>
      ∃ arg ∈ (untilBad s n).args, ∃ v, Node.nth? n.params arg = some v ∧ F arg v p t e) := by
  have hresolvable : isResolvable n = fun arg => decide ¬n.LacksArgument arg := by
    funext arg
    rw [Bool.eq_iff_iff, isResolvable_iff_not_lacksArgument n hid, decide_eq_true_iff]
  refine (resolveArgs_adds env n step F hstep s.args r hr).congr (fun p t e => ?_)
  rw [untilBad, ← hresolvable]
  refine exists_congr (fun arg => and_congr_right (fun harg => exists_congr (fun v => ?_)))
  -- An argument that can be resolved has the value that the parameter has.
  rcases (isResolvable_iff n arg).1 (List.mem_takeWhile_imp harg) with ⟨w, hw⟩
  rw [hw, ((argument_eq_ok_iff n arg w).1 hw).1, Except.ok.injEq, Option.some.injEq]

/-- A source adds on a node the facts of its arguments before the first bad one, whether there is a
    bad one or not. -/
theorem resolve_adds_untilBad (env : Env) (s : Source) (n : Node) (hid : 0 ≤ n.id)
    (r : Resolution) (hr : r.Sound env) :
    Adds env r (resolve env s n r).1 (SeededBy env (untilBad s n) n) := by
  have hkind : (untilBad s n).kind = s.kind := rfl
  unfold resolve
  cases hk : s.kind with
  | input =>
      refine (resolveArgs_adds_untilBad env n hid (inputArg env n) (InputFact env n)
        (fun arg v r hr => inputArg_adds env n arg v r hr) s r hr).congr (fun p t e => ?_)
      simp [SeededBy, hkind, hk]
  | binder =>
      refine (resolveArgs_adds_untilBad env n hid (binderArg env n) (BinderFact env n)
        (fun arg v r hr => binderArg_adds env n arg v r hr) s r hr).congr (fun p t e => ?_)
      simp [SeededBy, hkind, hk]
  | other code =>
      refine (Adds.refl hr).congr (fun p t e => ?_)
      simp [SeededBy, hkind, hk]

/-! ## The pairs before a failure -/

/-- Pairs that can be resolved are resolved before those behind them. -/
theorem resolvePairs_append (env : Env) (earlier later : List (Node × Source)) (count : Nat)
    (r : Resolution) (hok : ∀ x ∈ earlier, IsResolvableOn x.2 x.1) :
    resolvePairs env (earlier ++ later) count r
      = resolvePairs env later (count + earlier.length) (resolvePairs env earlier count r).1 := by
  induction earlier generalizing count r with
  | nil => rfl
  | cons x earlier ih =>
      rcases x with ⟨n, s⟩
      rcases List.forall_mem_cons.1 hok with ⟨hfirst, hrest⟩
      have hnone := (resolve_eq_none_iff env s n
        (r.report (env.heap.policy.debug (s.text ++ " matches " ++ n.text)))).2 hfirst
      rw [List.cons_append, resolvePairs, resolvePairs]
      cases hres : resolve env s n
          (r.report (env.heap.policy.debug (s.text ++ " matches " ++ n.text))) with
      | mk r' failure =>
          rw [hres] at hnone
          cases hnone
          simp only
          rw [ih (count + 1) r' hrest, List.length_cons, Nat.add_assoc, Nat.add_comm 1]

/-- A pair that is refused ends the resolution, and those behind it are not looked at. -/
theorem resolvePairs_cons_of_failure (env : Env) (n : Node) (s : Source)
    (later : List (Node × Source)) (count : Nat) (r : Resolution) (cause : Failure)
    (hcause : (resolve env s n (r.report (env.heap.policy.debug (s.text ++ " matches " ++ n.text)))).2
      = some cause) :
    resolvePairs env ((n, s) :: later) count r
      = ((resolve env s n (r.report (env.heap.policy.debug (s.text ++ " matches " ++ n.text)))).1, count,
        some ⟨s, n, cause⟩) := by
  rw [resolvePairs]
  cases hres : resolve env s n (r.report (env.heap.policy.debug (s.text ++ " matches " ++ n.text))) with
  | mk r' failure =>
      rw [hres] at hcause
      cases hcause
      rfl

/-- The pairs of one node. -/
def pairsAt (sources : List Source) (n : Node) : List (Node × Source) :=
  (sources.filter (fun s => s.matches n)).map (fun s => (n, s))

theorem mem_pairsAt (sources : List Source) (n : Node) (x : Node × Source) :
    x ∈ pairsAt sources n ↔ x.1 = n ∧ x.2 ∈ sources ∧ x.2.matches n = true := by
  rcases x with ⟨m, s⟩
  simp only [pairsAt, List.mem_map, List.mem_filter, Prod.mk.injEq]
  constructor
  · rintro ⟨u, hu, rfl, rfl⟩
    exact ⟨rfl, hu⟩
  · rintro ⟨rfl, hs⟩
    exact ⟨s, hs, rfl, rfl⟩

theorem length_pairsAt (sources : List Source) (n : Node) :
    (pairsAt sources n).length = sources.countP (fun s => s.matches n) := by
  rw [pairsAt, List.length_map, List.countP_eq_length_filter]

theorem pairsAt_append_cons (before after : List Source) (s : Source) (n : Node)
    (hmatch : s.matches n = true) :
    pairsAt (before ++ s :: after) n = pairsAt before n ++ (n, s) :: pairsAt after n := by
  simp [pairsAt, hmatch]

/-- The node `n` and the source `s` are the first pair that fails, in the order of the numbers of
    the nodes and then of the positions of the sources. -/
structure FirstFailure (sources : List Source) (nodes : List Node) (n : Node)
    (before : List Source) (s : Source) (after : List Source) : Prop where
  /-- The node is one of those that are looked at. -/
  node : n ∈ nodes
  /-- The source comes behind those of `before`. -/
  source : sources = before ++ s :: after
  /-- The pair fails. -/
  fails : FailsOn s n
  /-- No source fails on a node with a smaller number. -/
  nodes_before : ∀ m ∈ nodes, m.id < n.id → ∀ u ∈ sources, ¬FailsOn u m
  /-- No source before it fails on the node. -/
  sources_before : ∀ u ∈ before, ¬FailsOn u n

/-- The nodes with a smaller number than that of `n`. -/
def nodesBefore (nodes : List Node) (n : Node) : List Node :=
  nodes.filter (fun m => decide (m.id < n.id))

-- The first member of a list that passes a test parts the list.
theorem exists_first {α : Type} (p : α → Bool) (l : List α) (h : ∃ x ∈ l, p x = true) :
    ∃ a x b, l = a ++ x :: b ∧ p x = true ∧ ∀ y ∈ a, p y = false := by
  cases hfind : l.find? p with
  | none =>
      rcases h with ⟨x, hx, hp⟩
      exact absurd hp (List.find?_eq_none.1 hfind x hx)
  | some x =>
      rcases List.find?_eq_some_iff_append.1 hfind with ⟨hp, a, b, hl, ha⟩
      exact ⟨a, x, b, hl, hp, fun y hy => by simpa using ha y hy⟩

theorem pairwise_sorted (nodes : List Node) :
    (nodes.mergeSort (fun m n => decide (m.id ≤ n.id))).Pairwise (fun m n => m.id ≤ n.id) := by
  refine (List.pairwise_mergeSort ?_ ?_ nodes).imp of_decide_eq_true
  · intro a b c hab hbc
    rw [decide_eq_true_iff] at hab hbc ⊢
    exact Int.le_trans hab hbc
  · intro a b
    simpa using Int.le_total a.id b.id

/-- Where the nodes in front of `n` in the sorted list have smaller numbers, they are all the nodes
    with smaller numbers. -/
theorem nodesBefore_perm (nodes : List Node) (n : Node) (ms ns : List Node)
    (hsplit : nodes.mergeSort (fun m n => decide (m.id ≤ n.id)) = ms ++ n :: ns)
    (hsmaller : ∀ m ∈ ms, m.id < n.id) : ms.Perm (nodesBefore nodes n) := by
  have hsorted := pairwise_sorted nodes
  rw [hsplit, List.pairwise_append, List.pairwise_cons] at hsorted
  have hlarger : ∀ m ∈ n :: ns, ¬m.id < n.id := by
    intro m hm
    rcases List.mem_cons.1 hm with rfl | hm
    · exact Int.lt_irrefl m.id
    · exact Int.not_lt.2 (hsorted.2.1.1 m hm)
  have hkept : (ms ++ n :: ns).filter (fun m => decide (m.id < n.id)) = ms := by
    rw [List.filter_append, List.filter_eq_self.2 (fun m hm => decide_eq_true (hsmaller m hm)),
      List.filter_eq_nil_iff.2 (fun m hm hc => hlarger m hm (of_decide_eq_true hc)),
      List.append_nil]
  have hpart := (List.mergeSort_perm nodes (fun m n => decide (m.id ≤ n.id))).filter
    (fun m => decide (m.id < n.id))
  rw [hsplit, hkept] at hpart
  exact hpart

/-- Where a pair of nodes of one graph fails, one is the first, and the pairs before it are those of
    the nodes with smaller numbers and those of the sources before it. -/
theorem exists_firstFailure (g : Graph) (hg : g.WellFormed) (sources : List Source)
    (nodes : List Node) (hnodes : ∀ n ∈ nodes, n ∈ g.nodes)
    (hfails : ∃ n ∈ nodes, ∃ s ∈ sources, FailsOn s n) :
    ∃ n before s after, FirstFailure sources nodes n before s after ∧
      ∃ earlier later, matchingPairs sources nodes = earlier ++ (n, s) :: later ∧
        earlier.Perm ((nodesBefore nodes n).flatMap (pairsAt sources) ++ pairsAt before n) := by
  have hperm : (nodes.mergeSort (fun m n => decide (m.id ≤ n.id))).Perm nodes :=
    List.mergeSort_perm nodes _
  -- The first node on which a source fails, and the first source that fails on it.
  rcases exists_first (fun n => decide (∃ s ∈ sources, FailsOn s n))
      (nodes.mergeSort (fun m n => decide (m.id ≤ n.id))) (by
    rcases hfails with ⟨n, hn, hs⟩
    exact ⟨n, hperm.mem_iff.2 hn, decide_eq_true hs⟩) with ⟨ms, n, ns, hsplit, hn, hms⟩
  rcases exists_first (fun s => decide (FailsOn s n)) sources (by
    rcases of_decide_eq_true hn with ⟨s, hs, hf⟩
    exact ⟨s, hs, decide_eq_true hf⟩) with ⟨before, s, after, hsources, hs, hbefore⟩
  have hlisted : ∀ m ∈ ms ++ n :: ns, m ∈ nodes := fun m hm => hperm.mem_iff.1 (hsplit ▸ hm)
  have hmem : n ∈ nodes := hlisted n (List.mem_append_right ms List.mem_cons_self)
  -- A node before it has a smaller number: with the same number it would be the same node.
  have hsmaller : ∀ m ∈ ms, m.id < n.id := by
    intro m hm
    have hsorted := pairwise_sorted nodes
    rw [hsplit, List.pairwise_append] at hsorted
    refine Int.lt_iff_le_and_ne.2 ⟨hsorted.2.2 m hm n List.mem_cons_self, fun hid => ?_⟩
    have hsame := hg.eq_of_id_eq m n (hnodes m (hlisted m (List.mem_append_left _ hm)))
      (hnodes n hmem) hid
    have hnot := hms m hm
    rw [hsame, hn] at hnot
    cases hnot
  have hbeforeNode := nodesBefore_perm nodes n ms ns hsplit hsmaller
  refine ⟨n, before, s, after, ⟨hmem, hsources, of_decide_eq_true hs, ?_, ?_⟩,
    ms.flatMap (pairsAt sources) ++ pairsAt before n,
    pairsAt after n ++ ns.flatMap (pairsAt sources), ?_, ?_⟩
  · intro m hm hid u hu hf
    have hnone := hms m (hbeforeNode.mem_iff.2 (List.mem_filter.2 ⟨hm, decide_eq_true hid⟩))
    exact of_decide_eq_false hnone ⟨u, hu, hf⟩
  · intro u hu
    exact of_decide_eq_false (hbefore u hu)
  · have hpairs : matchingPairs sources nodes
        = (nodes.mergeSort (fun m n => decide (m.id ≤ n.id))).flatMap (pairsAt sources) := rfl
    have hat : pairsAt sources n = pairsAt before n ++ (n, s) :: pairsAt after n := by
      rw [hsources]
      exact pairsAt_append_cons before after s n (of_decide_eq_true hs).1
    rw [hpairs, hsplit, List.flatMap_append, List.flatMap_cons, hat, List.append_assoc,
      List.append_assoc, List.cons_append]
  · exact (hbeforeNode.flatMap_right _).append_right _

/-! ## What is left -/

/-- What a resolution gives that began with `r` and stopped at the source `s` on the node `n`, where
    the sources of `before` come before `s`. -/
structure StopsAt (env : Env) (sources : List Source) (nodes : List Node) (r : Resolution)
    (n : Node) (before : List Source) (s : Source) (result : Resolution × Nat × Option Stopped) :
    Prop where
  /-- The number that is given is that of the matching pairs before it. -/
  count : result.2.1
    = ((nodesBefore nodes n).map (fun m => sources.countP (fun u => u.matches m))).sum
      + before.countP (fun u => u.matches n)
  /-- A source of an unknown kind is not implemented. -/
  unimplemented : s.kind ≠ .input ∧ s.kind ≠ .binder →
    ∃ e, result.2.2 = some e ∧ e = ⟨s, n, .unimplemented s⟩ ∧ e.chain = [.unimplementedSpec]
  /-- Any other has a bad argument. -/
  badArgument : s.kind = .input ∨ s.kind = .binder →
    ∃ e bad, result.2.2 = some e ∧ e = ⟨s, n, .badArgument s bad⟩ ∧ e.chain = [.badArgument]
  /-- The facts are those before, those of the earlier pairs, and those of the arguments of `s`
      before the first bad one. There are none of these if the kind of `s` is unknown. -/
  facts : ∀ p t e, result.1.facts.Holds p t e ↔ r.facts.Holds p t e ∨
    (∃ m ∈ nodes, m.id < n.id ∧ ∃ u ∈ sources, u.matches m = true ∧ SeededBy env u m p t e) ∨
    (∃ u ∈ before, u.matches n = true ∧ SeededBy env u n p t e) ∨
    SeededBy env (untilBad s n) n p t e

section Earlier

variable {sources : List Source} {nodes : List Node} {n : Node} {before after : List Source}
  {s : Source} {earlier : List (Node × Source)}
  (hearlier : earlier.Perm ((nodesBefore nodes n).flatMap (pairsAt sources) ++ pairsAt before n))
include hearlier

-- The pairs before the first that fails, one by one.
theorem mem_earlier_iff (x : Node × Source) :
    x ∈ earlier ↔ (x.1 ∈ nodes ∧ x.1.id < n.id ∧ x.2 ∈ sources ∧ x.2.matches x.1 = true) ∨
      x.1 = n ∧ x.2 ∈ before ∧ x.2.matches n = true := by
  rw [hearlier.mem_iff, List.mem_append, mem_pairsAt, List.mem_flatMap]
  refine or_congr ?_ Iff.rfl
  simp only [mem_pairsAt, nodesBefore, List.mem_filter, decide_eq_true_iff]
  constructor
  · rintro ⟨m, ⟨hm, hlt⟩, rfl, hu⟩
    exact ⟨hm, hlt, hu⟩
  · rintro ⟨hm, hlt, hu⟩
    exact ⟨x.1, ⟨hm, hlt⟩, rfl, hu⟩

theorem exists_earlier_iff (P : Node → Source → Prop) :
    (∃ x ∈ earlier, P x.1 x.2) ↔
      (∃ m ∈ nodes, m.id < n.id ∧ ∃ u ∈ sources, u.matches m = true ∧ P m u) ∨
        ∃ u ∈ before, u.matches n = true ∧ P n u := by
  constructor
  · rintro ⟨x, hx, hP⟩
    rcases (mem_earlier_iff hearlier x).1 hx with ⟨hm, hlt, hu, hmatch⟩ | ⟨heq, hu, hmatch⟩
    · exact Or.inl ⟨x.1, hm, hlt, x.2, hu, hmatch, hP⟩
    · exact Or.inr ⟨x.2, hu, hmatch, heq ▸ hP⟩
  · rintro (⟨m, hm, hlt, u, hu, hmatch, hP⟩ | ⟨u, hu, hmatch, hP⟩)
    · exact ⟨(m, u), (mem_earlier_iff hearlier (m, u)).2 (Or.inl ⟨hm, hlt, hu, hmatch⟩), hP⟩
    · exact ⟨(n, u), (mem_earlier_iff hearlier (n, u)).2 (Or.inr ⟨rfl, hu, hmatch⟩), hP⟩

theorem FirstFailure.isResolvableOn (hfirst : FirstFailure sources nodes n before s after)
    (hid : ∀ m ∈ nodes, 0 ≤ m.id) (x : Node × Source) (hx : x ∈ earlier) :
    IsResolvableOn x.2 x.1 := by
  rcases (mem_earlier_iff hearlier x).1 hx with ⟨hm, hlt, hu, hmatch⟩ | ⟨heq, hu, hmatch⟩
  · exact (isResolvableOn_iff_not_failsOn x.2 x.1 (hid x.1 hm) hmatch).2
      (hfirst.nodes_before x.1 hm hlt x.2 hu)
  · rw [heq]
    exact (isResolvableOn_iff_not_failsOn x.2 n (hid n hfirst.node) hmatch).2
      (hfirst.sources_before x.2 hu)

end Earlier

/-- The resolution stops at the first pair that fails. -/
theorem stopsAt_of_firstFailure (g : Graph) (hg : g.WellFormed) (env : Env)
    (sources : List Source) (nodes : List Node) (r : Resolution)
    (hnodes : ∀ n ∈ nodes, n ∈ g.nodes) (hr : r.Sound env) {n : Node}
    {before after : List Source} {s : Source}
    (hfirst : FirstFailure sources nodes n before s after) {earlier later : List (Node × Source)}
    (hpairs : matchingPairs sources nodes = earlier ++ (n, s) :: later)
    (hearlier : earlier.Perm ((nodesBefore nodes n).flatMap (pairsAt sources) ++ pairsAt before n)) :
    StopsAt env sources nodes r n before s (resolveAll env sources nodes r) := by
  have hid : ∀ m ∈ nodes, 0 ≤ m.id := fun m hm => (hg.id_range m (hnodes m hm)).1
  have hok : ∀ x ∈ earlier, IsResolvableOn x.2 x.1 := hfirst.isResolvableOn hearlier hid
  -- The earlier pairs are resolved in full, then the pair that fails as far as it can be.
  rcases resolvePairs_adds env earlier 0 r hr
    ((resolvePairs_eq_none_iff env earlier 0 r).2 hok) with ⟨hadds, _⟩
  have hlog := report_adds env (resolvePairs env earlier 0 r).1
    (env.heap.policy.debug (s.text ++ " matches " ++ n.text)) hadds.sound
  have hpartly := resolve_adds_untilBad env s n (hid n hfirst.node) _ hlog.sound
  rcases resolve_of_failsOn env s n ((resolvePairs env earlier 0 r).1.report
    (env.heap.policy.debug (s.text ++ " matches " ++ n.text))) (hid n hfirst.node) hfirst.fails with
    ⟨cause, hcause, hunknown, hknown⟩
  have hresult : resolveAll env sources nodes r = ((resolve env s n
      ((resolvePairs env earlier 0 r).1.report (env.heap.policy.debug (s.text ++ " matches " ++ n.text)))).1,
      earlier.length, some ⟨s, n, cause⟩) := by
    rw [resolveAll, hpairs, resolvePairs_append env earlier _ 0 r hok, Nat.zero_add]
    exact resolvePairs_cons_of_failure env n s later _ _ cause hcause
  rw [hresult]
  constructor
  case count =>
    have hlength := hearlier.length_eq
    rw [List.length_append, List.length_flatMap, length_pairsAt] at hlength
    simp only [length_pairsAt] at hlength
    exact hlength
  case unimplemented =>
    intro hkind
    rw [hunknown hkind]
    exact ⟨_, rfl, rfl, rfl⟩
  case badArgument =>
    intro hkind
    rcases hknown hkind with ⟨bad, rfl⟩
    exact ⟨_, bad, rfl, rfl, bad.chain_eq⟩
  case facts =>
    intro p t e
    rw [(hadds.trans (hlog.trans hpartly)).facts, false_or,
      exists_earlier_iff hearlier (fun m u => SeededBy env u m p t e), or_assoc]

/-- Some pair is refused exactly if a source fails on a node. -/
theorem resolveAll_isSome_iff (env : Env) (sources : List Source) (nodes : List Node)
    (r : Resolution) (hid : ∀ n ∈ nodes, 0 ≤ n.id) :
    (resolveAll env sources nodes r).2.2.isSome = true ↔
      ∃ n ∈ nodes, ∃ s ∈ sources, FailsOn s n := by
  rw [← not_iff_not, Bool.not_eq_true, Option.isSome_eq_false_iff, Option.isNone_iff_eq_none,
    resolveAll, resolvePairs_eq_none_iff]
  constructor
  · rintro hall ⟨n, hn, s, hs, hfails⟩
    have hpair := (mem_matchingPairs sources nodes (n, s)).2 ⟨hn, hs, hfails.1⟩
    exact (isResolvableOn_iff_not_failsOn s n (hid n hn) hfails.1).1 (hall _ hpair) hfails
  · intro hnone x hx
    rcases (mem_matchingPairs sources nodes x).1 hx with ⟨hn, hs, hmatch⟩
    refine (isResolvableOn_iff_not_failsOn x.2 x.1 (hid x.1 hn) hmatch).2 (fun hfails => ?_)
    exact hnone ⟨x.1, hn, x.2, hs, hfails⟩

/-- A resolution on nodes of one graph fails exactly if a source fails on a node, whatever the
    program and the order of nodes and sources. It then stops at the first pair that fails, and
    leaves the facts of the pairs before it and of the arguments before the first bad one. -/
theorem resolveAll_failure_exact (g : Graph) (hg : g.Built) (env : Env) (sources : List Source)
    (nodes : List Node) (r : Resolution) (hnodes : ∀ n ∈ nodes, n ∈ g.nodes)
    (hcloser : ∀ c, r.closer? = some c → c.ObtainedFrom env.heap) :
    ((resolveAll env sources nodes r).2.2.isSome = true ↔
      ∃ n ∈ nodes, ∃ s ∈ sources, FailsOn s n) ∧
    (∀ (env' : Env) (sources' : List Source) (nodes' : List Node) (r' : Resolution),
      sources'.Perm sources → nodes'.Perm nodes →
      (resolveAll env' sources' nodes' r').2.2.isSome
        = (resolveAll env sources nodes r).2.2.isSome) ∧
    ((resolveAll env sources nodes r).2.2.isSome = true →
      ∃ n before s after, FirstFailure sources nodes n before s after ∧
        StopsAt env sources nodes r n before s (resolveAll env sources nodes r)) := by
  have hw := Graph.built_wellFormed g hg
  have hid : ∀ n ∈ nodes, 0 ≤ n.id := fun n hn => (hw.id_range n (hnodes n hn)).1
  have hiff := resolveAll_isSome_iff env sources nodes r hid
  refine ⟨hiff, ?_, fun hsome => ?_⟩
  · intro env' sources' nodes' r' hsources hperm
    rw [Bool.eq_iff_iff, hiff, resolveAll_isSome_iff env' sources' nodes' r'
      (fun n hn => hid n (hperm.mem_iff.1 hn))]
    simp only [hperm.mem_iff, hsources.mem_iff]
  · rcases exists_firstFailure g hw sources nodes hnodes (hiff.1 hsome) with
      ⟨n, before, s, after, hfirst, earlier, later, hpairs, hearlier⟩
    exact ⟨n, before, s, after, hfirst, stopsAt_of_firstFailure g hw env sources nodes r hnodes
      (fun c hc => (hcloser c hc).faithful) hfirst hpairs hearlier⟩

/-- An input that names the application method of the sample, with an argument between two others
    that the method does not have. -/
def callbackOverreach : Source :=
  ⟨.ofMethod ⟨"app", "Receiver", "onReceive", "(I)V"⟩, [0, 5, 1], .input⟩

/-- On the sample program, its nodes given backwards, one pair is resolved before the failure. Of the
    pair that fails the first argument is tainted, and the one behind the bad one is not. -/
theorem resolveAll_failure_exact_callback :
    (resolveAll callbackEnv [callbackSource, callbackOverreach] Graph.callback.nodes.reverse
      ⟨.empty, some .fresh, []⟩).2.1 = 1 ∧
    (∃ e, (resolveAll callbackEnv [callbackSource, callbackOverreach] Graph.callback.nodes.reverse
      ⟨.empty, some .fresh, []⟩).2.2 = some e ∧ e.chain = [.badArgument]) ∧
    ∃ n ∈ Graph.callback.nodes,
      (resolveAll callbackEnv [callbackSource, callbackOverreach] Graph.callback.nodes.reverse
        ⟨.empty, some .fresh, []⟩).1.facts.Holds ⟨1, 0⟩ (.entryArg n 0) (.localValue 1 1) ∧
      ¬(resolveAll callbackEnv [callbackSource, callbackOverreach] Graph.callback.nodes.reverse
        ⟨.empty, some .fresh, []⟩).1.facts.Holds ⟨1, 0⟩ (.entryArg n 1) (.localValue 1 2) := by
  let receiver : Node := Graph.callback.nodes.get ⟨1, by decide⟩
  have hreceiver : receiver ∈ Graph.callback.nodes.reverse := List.mem_reverse.2 (List.get_mem _ _)
  have hcases : ∀ m ∈ Graph.callback.nodes.reverse, ¬FailsOn callbackSource m ∧
      (FailsOn callbackOverreach m → m = receiver) := by decide
  have hexact := resolveAll_failure_exact .callback Graph.callback_built callbackEnv
    [callbackSource, callbackOverreach] Graph.callback.nodes.reverse ⟨.empty, some .fresh, []⟩
    (fun n hn => List.mem_reverse.1 hn) (fun c hc => Option.some.inj hc ▸ .fresh)
  rcases hexact.2.2 (hexact.1.2 ⟨receiver, hreceiver, callbackOverreach, by simp, by decide⟩) with
    ⟨n, before, s, after, hfirst, hstops⟩
  -- The first of the two sources fails on no node, so the pair is that of the second.
  have hpair : before = [callbackSource] ∧ s = callbackOverreach := by
    have hsource := hfirst.source
    rcases before with _ | ⟨u, _ | ⟨w, before⟩⟩
    · cases hsource
      exact absurd hfirst.fails (hcases n hfirst.node).1
    · cases hsource
      exact ⟨rfl, rfl⟩
    · simp at hsource
  rcases hpair with ⟨rfl, rfl⟩
  have hn : n = receiver := (hcases n hfirst.node).2 hfirst.fails
  subst hn
  have hflow : ∀ u m e, SeededBy callbackEnv u m ⟨1, 0⟩ (.entryArg receiver 1) e →
      u.kind = .input ∧ m = receiver ∧ 1 ∈ u.args := by
    rintro u m e ⟨arg, harg, _, _, ⟨hkind, _, ht, _⟩ | ⟨_, _, _, _, ht, _⟩⟩
    · rcases Flow.entryArg.inj ht with ⟨rfl, rfl⟩
      exact ⟨hkind, rfl, harg⟩
    · cases ht
  rcases hstops.badArgument (Or.inl rfl) with ⟨e, _, he, _, hchain⟩
  refine ⟨hstops.count.trans (by decide), ⟨e, he, hchain⟩, receiver, List.mem_reverse.1 hreceiver,
    (hstops.facts _ _ _).2 (Or.inr (Or.inr (Or.inr ?_))), fun hholds => ?_⟩
  · exact ⟨0, by decide, 1, by decide, Or.inl ⟨rfl, by decide, rfl, Or.inl rfl⟩⟩
  · rcases (hstops.facts _ _ _).1 hholds with hempty | ⟨m, _, hlt, u, _, _, hseed⟩ |
      ⟨u, hu, _, hseed⟩ | hseed
    · exact absurd hempty (DistinctList.not_mem_empty _)
    · rw [(hflow u m _ hseed).2.1] at hlt
      exact absurd hlt (Int.lt_irrefl _)
    · rw [List.mem_singleton.1 hu] at hseed
      exact absurd (hflow _ _ _ hseed).1 (by decide)
    · exact absurd (hflow _ _ _ hseed).2.2 (by decide)

end Resolution

end TaintSeed
