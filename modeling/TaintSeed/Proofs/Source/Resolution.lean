import Mathlib.Algebra.GroupWithZero.Nat
import Mathlib.Data.List.TakeWhile
import TaintSeed.Proofs.CallGraph.Built
import TaintSeed.Proofs.Facts
import TaintSeed.Proofs.Heap.Alike
import TaintSeed.Proofs.Heap.Closer
import TaintSeed.Source.Resolve

/-!
# What Resolving Sources Records

Sources are resolved in nested loops, over pairs of a node and a source, the
arguments of the source, the objects of an argument and the entries of the
node, and all of them write into one map of facts. This module says which
facts are in the map afterwards.

A pair contributes the facts `SeededBy` describes, without reference to any
loop. `Adds` is the specification that every level of the loops meets: from
one state to the next exactly the facts of a given set are added, and what the
closer remembers stays true. Adding one set and then another adds their union,
so a loop adds the union over its list, and the proof goes up level by level.

A failure ends a loop early. `resolveArgs_adds` therefore speaks of the
arguments before the first bad one, and `resolveArgs_eq_none_iff` says when
these are all of them.

## Main definitions

* `Resolution.InputFact`, `Resolution.BinderFact`: The facts of one argument.
* `Resolution.SeededBy`: The facts of a source on a node.
* `Resolution.Sound`: What is remembered are closures.
* `Resolution.Adds`: A step adds exactly the given facts.
* `Resolution.IsResolvableOn`: The source can be resolved on the node.

## Theorems

* `Resolution.Adds.foldl`: A loop adds what its steps add.
* `Resolution.inputArg_adds`, `Resolution.binderArg_adds`: What an argument adds.
* `Resolution.resolveArgs_adds`: What the arguments of a source add.
* `Resolution.resolve_adds`: What a source adds on a node.
* `Resolution.resolvePairs_eq_none_iff`: When nothing fails.
* `Resolution.mem_matchingPairs`: Which pairs are resolved.
* `Resolution.resolveAll_exact`: What resolving all sources adds, and how many pairs there are.
-/

namespace TaintSeed

namespace Resolution

/-! ## The facts of a source on a node -/

/-- A fact of an argument of an input: the local value is tainted and, if the parameter is on the
    heap, so are the objects that it may refer to. -/
def InputFact (env : Env) (n : Node) (arg v : Int) (p : ProgramPoint) (t : Flow) (e : Element) :
    Prop :=
  p ∈ env.graph.entriesOf n ∧ t = .entryArg n arg ∧
    (e = .localValue n.id v ∨
      ((n.paramType arg).kind = .reference ∨ (n.paramType arg).kind = .array) ∧
        ∃ o ∈ env.heap.pointsTo.objects (.localValue n.id v), e = .object o)

/-- An object from which an argument of a binder taints: one that the argument may refer to or, if
    none is known and the type of the parameter is no interface, the one that stands for it. -/
def BinderObject (env : Env) (n : Node) (arg v : Int) (o : Instance) : Prop :=
  o ∈ env.heap.pointsTo.objects (.localValue n.id v) ∨
    env.heap.pointsTo.objects (.localValue n.id v) = [] ∧
      env.heap.hierarchy.isInterface (n.paramType arg) = false ∧
      env.heap.hierarchy.lookup (n.paramType arg) = .ok o

/-- A fact of an argument of a binder: under the flow of each object the local value is tainted and
    so is the closure of the object. -/
def BinderFact (env : Env) (n : Node) (arg v : Int) (p : ProgramPoint) (t : Flow) (e : Element) :
    Prop :=
  p ∈ env.graph.entriesOf n ∧ ∃ o, BinderObject env n arg v o ∧ t = .entryArgBinder o n arg ∧
    (e = .localValue n.id v ∨ e ∈ (env.heap.closure o).value)

/-- A fact of the source `s` on the node `n`: it comes from one of the arguments of the source,
    which is a parameter of the node. -/
def SeededBy (env : Env) (s : Source) (n : Node) (p : ProgramPoint) (t : Flow) (e : Element) :
    Prop :=
  ∃ arg ∈ s.args, ∃ v, Node.nth? n.params arg = some v ∧
    (s.kind = .input ∧ InputFact env n arg v p t e ∨
      s.kind = .binder ∧ BinderFact env n arg v p t e)

/-- The facts of a source depend on what a heap knows, not on the order in which it lists objects
    or on what it prints. -/
theorem SeededBy.of_alike {g : Graph} {h h' : Heap} (ha : h.Alike h') {s : Source} {n : Node}
    {p : ProgramPoint} {t : Flow} {e : Element} (hs : SeededBy ⟨g, h⟩ s n p t e) :
    SeededBy ⟨g, h'⟩ s n p t e := by
  rcases hs with ⟨arg, harg, v, hv, ⟨hkind, hentry, hflow, hfact⟩ |
    ⟨hkind, hentry, o, hobject, hflow, hfact⟩⟩
  · refine ⟨arg, harg, v, hv, Or.inl ⟨hkind, hentry, hflow, hfact.imp_right ?_⟩⟩
    rintro ⟨hheap, o, ho, he⟩
    exact ⟨hheap, o, (ha.objects _ o).1 ho, he⟩
  · refine ⟨arg, harg, v, hv, Or.inr ⟨hkind, hentry, o, ?_, hflow, ?_⟩⟩
    · refine hobject.imp (ha.objects _ o).1 ?_
      rintro ⟨hnone, hinterface, hlookup⟩
      exact ⟨(ha.objects_eq_nil_iff _).1 hnone, ha.hierarchy ▸ hinterface, ha.hierarchy ▸ hlookup⟩
    · exact hfact.imp_right (ha.mem_closure_iff o e).1

/-! ## Steps that add facts -/

/-- What is remembered are closures in the heap of the program. -/
def Sound (env : Env) (r : Resolution) : Prop :=
  ∀ c, r.closer? = some c → c.Faithful env.heap

/-- The step from `r` to `r'` adds exactly the facts of `P`, and leaves a sound state. -/
structure Adds (env : Env) (r r' : Resolution)
    (P : ProgramPoint → Flow → Element → Prop) : Prop where
  /-- What is remembered afterwards are closures. -/
  sound : r'.Sound env
  /-- The facts afterwards are those before and those of `P`. -/
  facts : ∀ p t e, r'.facts.Holds p t e ↔ r.facts.Holds p t e ∨ P p t e

namespace Adds

variable {env : Env} {r r₁ r₂ : Resolution} {P Q : ProgramPoint → Flow → Element → Prop}

theorem refl (hr : r.Sound env) : Adds env r r (fun _ _ _ => False) :=
  ⟨hr, fun p t e => by simp⟩

/-- Steps one after the other add what either of them adds. -/
theorem trans (h₁ : Adds env r r₁ P) (h₂ : Adds env r₁ r₂ Q) :
    Adds env r r₂ (fun p t e => P p t e ∨ Q p t e) := by
  refine ⟨h₂.sound, fun p t e => ?_⟩
  rw [h₂.facts, h₁.facts, or_assoc]

theorem congr (h : Adds env r r₁ P) (hPQ : ∀ p t e, P p t e ↔ Q p t e) : Adds env r r₁ Q :=
  ⟨h.sound, fun p t e => by rw [h.facts, hPQ]⟩

/-- A loop adds what its steps add, whatever state each of them starts from. -/
theorem foldl {α : Type} (step : Resolution → α → Resolution)
    (F : α → ProgramPoint → Flow → Element → Prop)
    (hstep : ∀ (r : Resolution) (a : α), r.Sound env → Adds env r (step r a) (F a))
    (as : List α) (r : Resolution) (hr : r.Sound env) :
    Adds env r (as.foldl step r) (fun p t e => ∃ a ∈ as, F a p t e) := by
  induction as generalizing r with
  | nil => exact (refl hr).congr (fun p t e => by simp)
  | cons a as ih =>
      have hfirst := hstep r a hr
      have hrest := ih (step r a) hfirst.sound
      exact (hfirst.trans hrest).congr (fun p t e => by simp)

end Adds

/-- The log tells nothing about facts and closures. -/
theorem report_adds (env : Env) (r : Resolution) (es : List Log.Entry) (hr : r.Sound env) :
    Adds env r (r.report es) (fun _ _ _ => False) :=
  ⟨hr, fun p t e => by simp [report]⟩

/-! ## One argument -/

/-- Recording elements at all entries of a node. -/
theorem holds_recordAt (f : Facts) (entries : List ProgramPoint) (u : Flow) (s : ElementSet)
    (p : ProgramPoint) (t : Flow) (e : Element) :
    (recordAt f entries u s).Holds p t e ↔ f.Holds p t e ∨ p ∈ entries ∧ t = u ∧ e ∈ s := by
  unfold recordAt
  induction entries generalizing f with
  | nil => simp
  | cons q entries ih =>
      rw [List.foldl_cons, ih, Facts.holds_record, List.mem_cons, or_assoc, or_and_right]

theorem mem_elementsOf (env : Env) (n : Node) (arg v : Int) (e : Element) :
    e ∈ elementsOf env n arg v ↔ e = .localValue n.id v ∨
      ((n.paramType arg).kind = .reference ∨ (n.paramType arg).kind = .array) ∧
        ∃ o ∈ env.heap.pointsTo.objects (.localValue n.id v), e = .object o := by
  have hheap : ((n.paramType arg).isReference || (n.paramType arg).isArray) = true ↔
      (n.paramType arg).kind = .reference ∨ (n.paramType arg).kind = .array := by
    rw [Bool.or_eq_true, TypeRef.isReference, TypeRef.isArray, beq_iff_eq, beq_iff_eq]
  unfold elementsOf objectsOf
  rw [DistinctList.mem_ofList, List.mem_cons, ← hheap]
  split
  · rename_i hh
    rw [List.mem_map]
    simp only [hh, true_and, eq_comm]
  · rename_i hh
    simp [hh]

/-- An argument of an input adds its facts. -/
theorem inputArg_adds (env : Env) (n : Node) (arg v : Int) (r : Resolution) (hr : r.Sound env) :
    Adds env r (inputArg env n arg v r) (InputFact env n arg v) := by
  refine ⟨hr, fun p t e => ?_⟩
  have hfacts : (inputArg env n arg v r).facts = recordAt r.facts (env.graph.entriesOf n)
      (.entryArg n arg) (elementsOf env n arg v) := rfl
  rw [hfacts, holds_recordAt, mem_elementsOf]
  rfl

/-- A sound state answers with the closure, and stays sound. -/
theorem closureOf_spec (env : Env) (r : Resolution) (o : Instance) (hr : r.Sound env) :
    (closureOf env r o).1 = (env.heap.closure o).value ∧
      (closureOf env r o).2.facts = r.facts ∧ (closureOf env r o).2.Sound env := by
  unfold closureOf
  cases hc : r.closer? with
  | none =>
      refine ⟨rfl, rfl, fun c hc' => ?_⟩
      exact hr c hc'
  | some c =>
      refine ⟨Closer.closure_value env.heap c o (hr c hc), rfl, fun c' hc' => ?_⟩
      cases hc'
      exact Closer.closure_faithful env.heap c o (hr c hc)

/-- One object of an argument of a binder adds the facts of its flow. -/
theorem binderObject_adds (env : Env) (n : Node) (arg v : Int) (r : Resolution) (o : Instance)
    (hr : r.Sound env) :
    Adds env r (binderObject env n arg v r o) (fun p t e => p ∈ env.graph.entriesOf n ∧
      t = .entryArgBinder o n arg ∧
      (e = .localValue n.id v ∨ e ∈ (env.heap.closure o).value)) := by
  rcases closureOf_spec env r o hr with ⟨hclosure, hkept, hsound⟩
  refine ⟨hsound, fun p t e => ?_⟩
  have hfacts : (binderObject env n arg v r o).facts
      = recordAt (closureOf env r o).2.facts (env.graph.entriesOf n) (.entryArgBinder o n arg)
        ((closureOf env r o).1.insert (.localValue n.id v)) := rfl
  rw [hfacts, hkept, hclosure, holds_recordAt, DistinctList.mem_insert,
    or_comm (a := e ∈ (env.heap.closure o).value)]

theorem mem_binderObjects (env : Env) (n : Node) (arg v : Int) (o : Instance) :
    o ∈ (binderObjects env n arg v).value ↔ BinderObject env n arg v o := by
  unfold binderObjects objectsOf BinderObject
  split
  · rename_i hnone
    rw [hnone]
    by_cases hi : env.heap.hierarchy.isInterface (n.paramType arg) = true
    · simp [hi]
    · simp only [hi]
      cases env.heap.hierarchy.lookup (n.paramType arg) with
      | error e => simp
      | ok placeholder => simp [eq_comm]
  · rename_i hsome
    exact ⟨Or.inl, fun ho => ho.elim id (fun hp => absurd hp.1 hsome)⟩

/-- An argument of a binder adds its facts. -/
theorem binderArg_adds (env : Env) (n : Node) (arg v : Int) (r : Resolution) (hr : r.Sound env) :
    Adds env r (binderArg env n arg v r) (BinderFact env n arg v) := by
  have hlog := report_adds env r (binderObjects env n arg v).log hr
  have hobjects := Adds.foldl (binderObject env n arg v) _
    (fun r o hr => binderObject_adds env n arg v r o hr)
    (binderObjects env n arg v).value _ hlog.sound
  refine (hlog.trans hobjects).congr (fun p t e => ?_)
  simp only [false_or, mem_binderObjects]
  constructor
  · rintro ⟨o, ho, hp, ht, he⟩
    exact ⟨hp, o, ho, ht, he⟩
  · rintro ⟨hp, o, ho, ht, he⟩
    exact ⟨o, ho, hp, ht, he⟩

/-! ## The arguments of a source -/

/-- An argument can be resolved when the node has the parameter and both numbers are not
    negative. -/
theorem argument_eq_ok_iff (n : Node) (arg v : Int) :
    argument n arg = .ok v ↔ Node.nth? n.params arg = some v ∧ 0 ≤ n.id ∧ 0 ≤ v := by
  unfold argument Node.param
  cases hparam : Node.nth? n.params arg with
  | none => simp
  | some w =>
      simp only [Element.ofLocal]
      by_cases hneg : n.id < 0 ∨ w < 0
      · rw [if_pos hneg]
        simp only [reduceCtorEq, Option.some.injEq, false_iff, not_and]
        rintro rfl hn hv
        rcases hneg with h | h
        · exact absurd hn (Int.not_le.2 h)
        · exact absurd hv (Int.not_le.2 h)
      · rw [if_neg hneg]
        rw [not_or, Int.not_lt, Int.not_lt] at hneg
        simp only [Except.ok.injEq, Option.some.injEq]
        constructor
        · rintro rfl
          exact ⟨rfl, hneg.1, hneg.2⟩
        · exact fun h => h.1

/-- Whether an argument can be resolved on a node. -/
def isResolvable (n : Node) (arg : Int) : Bool := (argument n arg).toOption.isSome

theorem isResolvable_iff (n : Node) (arg : Int) :
    isResolvable n arg = true ↔ ∃ v, argument n arg = .ok v := by
  unfold isResolvable
  cases argument n arg with
  | error e => simp [Except.toOption]
  | ok v => simp [Except.toOption]

/-- The arguments before the first bad one add their facts. -/
theorem resolveArgs_adds (env : Env) (n : Node) (step : Int → Int → Resolution → Resolution)
    (F : Int → Int → ProgramPoint → Flow → Element → Prop)
    (hstep : ∀ (arg v : Int) (r : Resolution), r.Sound env → Adds env r (step arg v r) (F arg v))
    (args : List Int) (r : Resolution) (hr : r.Sound env) :
    Adds env r (resolveArgs n step args r).1 (fun p t e =>
      ∃ arg ∈ args.takeWhile (isResolvable n), ∃ v, argument n arg = .ok v ∧ F arg v p t e) := by
  induction args generalizing r with
  | nil => exact (Adds.refl hr).congr (fun p t e => by simp)
  | cons arg args ih =>
      cases harg : argument n arg with
      | error e =>
          have hbad : isResolvable n arg = false := by rw [isResolvable, harg]; rfl
          have hstop : resolveArgs n step (arg :: args) r = (r, some e) := by
            rw [resolveArgs, harg]
          rw [hstop, List.takeWhile_cons_of_neg (by rw [hbad]; exact Bool.false_ne_true)]
          exact (Adds.refl hr).congr (fun p t e => by simp)
      | ok v =>
          have hgood : isResolvable n arg = true := by rw [isResolvable, harg]; rfl
          have hgo : resolveArgs n step (arg :: args) r
              = resolveArgs n step args (step arg v r) := by
            rw [resolveArgs, harg]
          have hfirst := hstep arg v r hr
          rw [hgo, List.takeWhile_cons_of_pos hgood]
          refine (hfirst.trans (ih _ hfirst.sound)).congr (fun p t e => ?_)
          simp [harg]

/-- No argument is refused exactly when all of them can be resolved. -/
theorem resolveArgs_eq_none_iff (n : Node) (step : Int → Int → Resolution → Resolution)
    (args : List Int) (r : Resolution) :
    (resolveArgs n step args r).2 = none ↔ ∀ arg ∈ args, isResolvable n arg = true := by
  induction args generalizing r with
  | nil => simp [resolveArgs]
  | cons arg args ih =>
      cases harg : argument n arg with
      | error e =>
          have hbad : isResolvable n arg = false := by rw [isResolvable, harg]; rfl
          rw [resolveArgs, harg]
          simp [hbad]
      | ok v =>
          have hgood : isResolvable n arg = true := by rw [isResolvable, harg]; rfl
          rw [resolveArgs, harg]
          simp [hgood, ih]

/-- Where no argument is refused, all of them add the facts of their values. -/
theorem resolveArgs_adds_all (env : Env) (n : Node) (step : Int → Int → Resolution → Resolution)
    (F : Int → Int → ProgramPoint → Flow → Element → Prop)
    (hstep : ∀ (arg v : Int) (r : Resolution), r.Sound env → Adds env r (step arg v r) (F arg v))
    (args : List Int) (r : Resolution) (hr : r.Sound env)
    (hok : (resolveArgs n step args r).2 = none) :
    Adds env r (resolveArgs n step args r).1 (fun p t e =>
      ∃ arg ∈ args, ∃ v, Node.nth? n.params arg = some v ∧ F arg v p t e) := by
  have hall := (resolveArgs_eq_none_iff n step args r).1 hok
  refine (resolveArgs_adds env n step F hstep args r hr).congr (fun p t e => ?_)
  rw [List.takeWhile_eq_self_iff.2 hall]
  constructor
  · rintro ⟨arg, harg, v, hv, hf⟩
    exact ⟨arg, harg, v, ((argument_eq_ok_iff n arg v).1 hv).1, hf⟩
  · rintro ⟨arg, harg, v, hv, hf⟩
    -- The argument has a value that passed the check, and it is this one.
    rcases (isResolvable_iff n arg).1 (hall arg harg) with ⟨w, hw⟩
    have hw' := ((argument_eq_ok_iff n arg w).1 hw).1
    rw [hv, Option.some.injEq] at hw'
    exact ⟨arg, harg, v, hw' ▸ hw, hf⟩

/-! ## All pairs -/

/-- A source that is resolved on a node adds its facts. -/
theorem resolve_adds (env : Env) (s : Source) (n : Node) (r : Resolution) (hr : r.Sound env)
    (hok : (resolve env s n r).2 = none) :
    Adds env r (resolve env s n r).1 (SeededBy env s n) := by
  unfold resolve at hok ⊢
  cases hk : s.kind with
  | input =>
      simp only [hk, Option.map_eq_none_iff] at hok
      refine (resolveArgs_adds_all env n (inputArg env n) (InputFact env n)
        (fun arg v r hr => inputArg_adds env n arg v r hr) s.args r hr hok).congr ?_
      intro p t e
      simp [SeededBy, hk]
  | binder =>
      simp only [hk, Option.map_eq_none_iff] at hok
      refine (resolveArgs_adds_all env n (binderArg env n) (BinderFact env n)
        (fun arg v r hr => binderArg_adds env n arg v r hr) s.args r hr hok).congr ?_
      intro p t e
      simp [SeededBy, hk]
  | other code =>
      simp only [hk] at hok
      cases hok

/-- A source is resolved on a node when its kind is known and so are all its arguments. -/
def IsResolvableOn (s : Source) (n : Node) : Prop :=
  (s.kind = .input ∨ s.kind = .binder) ∧ ∀ arg ∈ s.args, isResolvable n arg = true

theorem resolve_eq_none_iff (env : Env) (s : Source) (n : Node) (r : Resolution) :
    (resolve env s n r).2 = none ↔ IsResolvableOn s n := by
  unfold resolve IsResolvableOn
  cases hk : s.kind with
  | input => simp [resolveArgs_eq_none_iff]
  | binder => simp [resolveArgs_eq_none_iff]
  | other code => simp

/-- Whether pairs are all resolved does not depend on the state. -/
theorem resolvePairs_eq_none_iff (env : Env) (pairs : List (Node × Source)) (count : Nat)
    (r : Resolution) :
    (resolvePairs env pairs count r).2.2 = none ↔ ∀ x ∈ pairs, IsResolvableOn x.2 x.1 := by
  induction pairs generalizing count r with
  | nil => simp [resolvePairs]
  | cons x pairs ih =>
      rcases x with ⟨n, s⟩
      have hiff := resolve_eq_none_iff env s n
        (r.report (env.heap.policy.debug (s.text ++ " matches " ++ n.text)))
      rw [resolvePairs, List.forall_mem_cons, ← hiff]
      cases hres : resolve env s n
          (r.report (env.heap.policy.debug (s.text ++ " matches " ++ n.text))) with
      | mk r' failure =>
          cases failure with
          | some e => simp
          | none => simp [ih]

/-- Pairs that are all resolved add their facts, and are counted. -/
theorem resolvePairs_adds (env : Env) (pairs : List (Node × Source)) (count : Nat)
    (r : Resolution) (hr : r.Sound env) (hok : (resolvePairs env pairs count r).2.2 = none) :
    Adds env r (resolvePairs env pairs count r).1 (fun p t e =>
        ∃ x ∈ pairs, SeededBy env x.2 x.1 p t e) ∧
      (resolvePairs env pairs count r).2.1 = count + pairs.length := by
  induction pairs generalizing count r with
  | nil => exact ⟨(Adds.refl hr).congr (fun p t e => by simp), rfl⟩
  | cons x pairs ih =>
      rcases x with ⟨n, s⟩
      have hlog := report_adds env r (env.heap.policy.debug (s.text ++ " matches " ++ n.text)) hr
      rw [resolvePairs] at hok ⊢
      cases hres : resolve env s n
          (r.report (env.heap.policy.debug (s.text ++ " matches " ++ n.text))) with
      | mk r' failure =>
          cases failure with
          | some e =>
              rw [hres] at hok
              cases hok
          | none =>
              have hpair := resolve_adds env s n _ hlog.sound (by rw [hres])
              rw [hres] at hok hpair
              simp only
              rcases ih (count + 1) r' hpair.sound hok with ⟨hrest, hcount⟩
              refine ⟨(hlog.trans (hpair.trans hrest)).congr (fun p t e => by simp), ?_⟩
              rw [hcount, List.length_cons]
              omega

/-- The pairs are those of a node and a source that names its method. -/
theorem mem_matchingPairs (sources : List Source) (nodes : List Node) (x : Node × Source) :
    x ∈ matchingPairs sources nodes ↔ x.1 ∈ nodes ∧ x.2 ∈ sources ∧ x.2.matches x.1 = true := by
  rcases x with ⟨n, s⟩
  simp only [matchingPairs, List.mem_flatMap, List.mem_mergeSort, List.mem_map, List.mem_filter,
    Prod.mk.injEq]
  constructor
  · rintro ⟨m, hm, u, hu, rfl, rfl⟩
    exact ⟨hm, hu⟩
  · rintro ⟨hn, hs⟩
    exact ⟨n, hn, s, hs, rfl, rfl⟩

/-- There are as many pairs as matches, each counted as often as node and source are listed. -/
theorem length_matchingPairs (sources : List Source) (nodes : List Node) :
    (matchingPairs sources nodes).length
      = (nodes.map (fun n => sources.countP (fun s => s.matches n))).sum := by
  have hsorted : (nodes.mergeSort (fun m n => decide (m.id ≤ n.id))).Perm nodes :=
    List.mergeSort_perm nodes _
  rw [matchingPairs, List.length_flatMap, ← (hsorted.map _).sum_nat]
  simp [List.countP_eq_length_filter]

/-- If nothing fails, the facts afterwards are those before and those of the matching pairs of a
    source and a node, and the number that is given is that of these pairs. -/
theorem resolveAll_exact (env : Env) (sources : List Source) (nodes : List Node) (r : Resolution)
    (hcloser : ∀ c, r.closer? = some c → c.ObtainedFrom env.heap)
    (hok : (resolveAll env sources nodes r).2.2 = none) :
    (∀ p t e, (resolveAll env sources nodes r).1.facts.Holds p t e ↔ r.facts.Holds p t e ∨
      ∃ n ∈ nodes, ∃ s ∈ sources, s.matches n = true ∧ SeededBy env s n p t e) ∧
    (resolveAll env sources nodes r).2.1
      = (nodes.map (fun n => sources.countP (fun s => s.matches n))).sum := by
  have hr : r.Sound env := fun c hc => (hcloser c hc).faithful
  rcases resolvePairs_adds env (matchingPairs sources nodes) 0 r hr hok with ⟨hadds, hcount⟩
  refine ⟨fun p t e => ?_, ?_⟩
  · rw [resolveAll, hadds.facts]
    refine or_congr Iff.rfl ?_
    constructor
    · rintro ⟨⟨n, s⟩, hx, hseed⟩
      rcases (mem_matchingPairs sources nodes (n, s)).1 hx with ⟨hn, hs, hmatch⟩
      exact ⟨n, hn, s, hs, hmatch, hseed⟩
    · rintro ⟨n, hn, s, hs, hmatch, hseed⟩
      exact ⟨(n, s), (mem_matchingPairs sources nodes (n, s)).2 ⟨hn, hs, hmatch⟩, hseed⟩
  · rw [resolveAll, hcount, length_matchingPairs, Nat.zero_add]

/-- The sample program: the argument of the application method refers to one object. -/
def callbackEnv : Env where
  graph := .callback
  heap :=
    { pointsTo := .recorded (PointsTo.Table.add ∅ (.localValue 1 2) [⟨.ofClass "Data", "new"⟩])
      hierarchy := default
      policy := default }

/-- A binder that names the application method of the sample. -/
def callbackSource : Source := ⟨.ofMethod ⟨"app", "Receiver", "onReceive", "(I)V"⟩, [1], .binder⟩

/-- On the sample program one pair is resolved, with a closer, and the argument is tainted under
    the flow of its object. -/
theorem resolveAll_exact_callback :
    (resolveAll callbackEnv [callbackSource] Graph.callback.nodes
      ⟨.empty, some .fresh, []⟩).2.2 = none ∧
    (resolveAll callbackEnv [callbackSource] Graph.callback.nodes
      ⟨.empty, some .fresh, []⟩).2.1 = 1 ∧
    ∃ n ∈ Graph.callback.nodes, (resolveAll callbackEnv [callbackSource] Graph.callback.nodes
      ⟨.empty, some .fresh, []⟩).1.facts.Holds ⟨1, 0⟩
        (.entryArgBinder ⟨.ofClass "Data", "new"⟩ n 1) (.localValue 1 2) := by
  have hok : (resolveAll callbackEnv [callbackSource] Graph.callback.nodes
      ⟨.empty, some .fresh, []⟩).2.2 = none := by
    rw [resolveAll, resolvePairs_eq_none_iff]
    intro x hx
    rcases (mem_matchingPairs _ _ x).1 hx with ⟨hn, hs, hmatch⟩
    rw [List.mem_singleton.1 hs] at hmatch ⊢
    refine ⟨Or.inr rfl, ?_⟩
    revert hmatch
    exact (by decide : ∀ n ∈ Graph.callback.nodes, callbackSource.matches n = true →
      ∀ arg ∈ callbackSource.args, isResolvable n arg = true) x.1 hn
  have hexact := resolveAll_exact callbackEnv [callbackSource] Graph.callback.nodes
    ⟨.empty, some .fresh, []⟩ (fun c hc => Option.some.inj hc ▸ .fresh) hok
  let receiver : Fin Graph.callback.nodes.length := ⟨1, by decide⟩
  have hmem : Graph.callback.nodes.get receiver ∈ Graph.callback.nodes := List.get_mem _ _
  have hfact : BinderFact callbackEnv (Graph.callback.nodes.get receiver) 1 2 ⟨1, 0⟩
      (.entryArgBinder ⟨.ofClass "Data", "new"⟩ (Graph.callback.nodes.get receiver) 1)
      (.localValue 1 2) :=
    ⟨by decide, _, Or.inl (List.mem_mergeSort.2 List.mem_cons_self), rfl, Or.inl rfl⟩
  refine ⟨hok, hexact.2.trans (by decide), Graph.callback.nodes.get receiver, hmem, ?_⟩
  exact (hexact.1 _ _ _).2 (Or.inr ⟨Graph.callback.nodes.get receiver, hmem, callbackSource,
    List.mem_singleton_self _, by decide, 1, by decide, 2, by decide, Or.inr ⟨rfl, hfact⟩⟩)

end Resolution

end TaintSeed
