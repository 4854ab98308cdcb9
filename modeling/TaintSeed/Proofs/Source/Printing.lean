import TaintSeed.Proofs.Heap.Printing
import TaintSeed.Source.Resolve

/-!
# A Policy Does Not Steer the Resolution

Sources are resolved in four nested loops, and each of them prints something: a
pair that matches, the elements of an argument, an object that cannot be found,
and whatever the closures of objects have to tell, the first time that they are
asked for. The state holds what was printed next to the facts and the remembered
closures, so it has to be shown that the one does not get into the other.

As with searches, `filtered` takes from a state what a policy does not allow,
and each step goes through it: a step by the policy from the filtered state is
the filtered step of an environment that prints everything. The loops follow by
induction, along with the number of resolved pairs and the failure, if there is
one.

## Main definitions

* `Resolution.Env.Quieter`: An environment prints by its policy, another one prints everything.
* `Resolution.filtered`: What a policy allows of what was printed.

## Theorems

* `Resolution.Env.Quieter.closureOf_eq`: Closures and what is remembered of them are the same.
* `Resolution.Env.Quieter.resolveAll_eq`: Resolving sources goes through the filter.
-/

namespace TaintSeed

namespace Resolution

/-- What is allowed of what was printed. -/
def filtered (q : Log.Policy) (r : Resolution) : Resolution := { r with log := q.allowed r.log }

/-- The environments have the same graph, and one heap prints everything that the other may. -/
structure Env.Quieter (env env' : Env) : Prop where
  graph : env.graph = env'.graph
  heap : env.heap.Quieter env'.heap

theorem filtered_report (q : Log.Policy) (r : Resolution) (es : List Log.Entry) :
    (r.report es).filtered q = (r.filtered q).report (q.allowed es) :=
  congrArg (Resolution.mk _ _) (q.allowed_append r.log es)

namespace Env.Quieter

variable {env env' : Env}

theorem objectsOf_eq (hq : env.Quieter env') (n : Node) (v : Int) :
    objectsOf env n v = objectsOf env' n v := hq.heap.objects _

theorem elementsOf_eq (hq : env.Quieter env') (n : Node) (arg v : Int) :
    elementsOf env n arg v = elementsOf env' n arg v := by
  unfold elementsOf
  rw [hq.objectsOf_eq]

theorem entriesOf_eq (hq : env.Quieter env') (n : Node) :
    env.graph.entriesOf n = env'.graph.entriesOf n := by rw [hq.graph]

theorem binderObjects_eq (hq : env.Quieter env') (n : Node) (arg v : Int) :
    binderObjects env n arg v = (binderObjects env' n arg v).filtered env.heap.policy := by
  unfold binderObjects
  rw [hq.objectsOf_eq, hq.heap.hierarchy]
  split
  · dsimp only
    split
    · exact congrArg (Logged.mk _) (hq.heap.debug_eq _)
    · split
      · rfl
      · exact congrArg (Logged.mk _) (hq.heap.warning_eq _)
  · rfl

/-- A closure is the same, and so is what is remembered. -/
theorem closureOf_eq (hq : env.Quieter env') (r : Resolution) (o : Instance) :
    closureOf env (r.filtered env.heap.policy) o
      = Prod.map id (filtered env.heap.policy) (closureOf env' r o) := by
  rcases r with ⟨facts, closer?, log⟩
  unfold closureOf
  cases closer? with
  | some c =>
      dsimp only [filtered, Prod.map]
      rw [c.closure_quieter hq.heap o, Log.Policy.allowed_append]
      rfl
  | none =>
      dsimp only [filtered, Prod.map, report]
      rw [hq.heap.closure_eq o, Log.Policy.allowed_append]
      rfl

/-! ## Arguments -/

theorem inputArg_eq (hq : env.Quieter env') (n : Node) (arg v : Int) (r : Resolution) :
    inputArg env n arg v (r.filtered env.heap.policy)
      = (inputArg env' n arg v r).filtered env.heap.policy := by
  unfold inputArg
  dsimp only [filtered]
  rw [hq.elementsOf_eq, hq.entriesOf_eq, hq.heap.debug_eq, Log.Policy.allowed_append]

theorem binderObject_eq (hq : env.Quieter env') (n : Node) (arg v : Int) (r : Resolution)
    (o : Instance) :
    binderObject env n arg v (r.filtered env.heap.policy) o
      = (binderObject env' n arg v r o).filtered env.heap.policy := by
  unfold binderObject
  rw [hq.closureOf_eq, hq.entriesOf_eq]
  dsimp only [filtered, Prod.map, id]
  rw [hq.heap.debug_eq, Log.Policy.allowed_append]

theorem foldl_binderObject_eq (hq : env.Quieter env') (n : Node) (arg v : Int)
    (os : List Instance) (r : Resolution) :
    os.foldl (binderObject env n arg v) (r.filtered env.heap.policy)
      = (os.foldl (binderObject env' n arg v) r).filtered env.heap.policy := by
  induction os generalizing r with
  | nil => rfl
  | cons o os ih => rw [List.foldl_cons, List.foldl_cons, hq.binderObject_eq, ih]

theorem binderArg_eq (hq : env.Quieter env') (n : Node) (arg v : Int) (r : Resolution) :
    binderArg env n arg v (r.filtered env.heap.policy)
      = (binderArg env' n arg v r).filtered env.heap.policy := by
  unfold binderArg
  rw [hq.binderObjects_eq]
  dsimp only [Logged.filtered]
  rw [← filtered_report, hq.foldl_binderObject_eq]

/-! ## Sources -/

/-- If every step goes through the filter, so do the arguments of a source up to the first that is
    bad. -/
theorem resolveArgs_eq (q : Log.Policy) (n : Node) (step step' : Int → Int → Resolution → Resolution)
    (hstep : ∀ arg v r, step arg v (r.filtered q) = (step' arg v r).filtered q) (args : List Int)
    (r : Resolution) :
    resolveArgs n step args (r.filtered q)
      = Prod.map (filtered q) id (resolveArgs n step' args r) := by
  induction args generalizing r with
  | nil => rfl
  | cons arg args ih =>
      unfold resolveArgs
      cases argument n arg with
      | error e => rfl
      | ok v =>
          dsimp only
          rw [hstep, ih]

theorem resolve_eq (hq : env.Quieter env') (s : Source) (n : Node) (r : Resolution) :
    resolve env s n (r.filtered env.heap.policy)
      = Prod.map (filtered env.heap.policy) id (resolve env' s n r) := by
  unfold resolve
  cases s.kind with
  | input =>
      dsimp only
      rw [resolveArgs_eq _ n _ _ (hq.inputArg_eq n)]
      rfl
  | binder =>
      dsimp only
      rw [resolveArgs_eq _ n _ _ (hq.binderArg_eq n)]
      rfl
  | other kind => rfl

theorem resolvePairs_eq (hq : env.Quieter env') (pairs : List (Node × Source)) (count : Nat)
    (r : Resolution) :
    resolvePairs env pairs count (r.filtered env.heap.policy)
      = Prod.map (filtered env.heap.policy) id (resolvePairs env' pairs count r) := by
  induction pairs generalizing count r with
  | nil => rfl
  | cons pair rest ih =>
      rcases pair with ⟨n, s⟩
      unfold resolvePairs
      dsimp only
      rw [hq.heap.debug_eq, ← filtered_report, hq.resolve_eq]
      rcases resolve env' s n
        (r.report (env'.heap.policy.debug (s.text ++ " matches " ++ n.text))) with ⟨r', e?⟩
      -- A pair that fails ends the loop on both sides, any other is followed by the rest.
      cases e? with
      | some e => rfl
      | none => exact ih (count + 1) r'

/-- Resolving sources gives the same facts, closures and failures, and what is printed is
    filtered. -/
theorem resolveAll_eq (hq : env.Quieter env') (sources : List Source) (nodes : List Node)
    (r : Resolution) :
    resolveAll env sources nodes (r.filtered env.heap.policy)
      = Prod.map (filtered env.heap.policy) id (resolveAll env' sources nodes r) :=
  hq.resolvePairs_eq _ 0 r

end Env.Quieter

end Resolution

end TaintSeed
