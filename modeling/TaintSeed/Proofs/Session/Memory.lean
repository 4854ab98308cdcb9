import TaintSeed.Proofs.Collection.Table
import TaintSeed.Proofs.Source.Resolution
import TaintSeed.Session

/-!
# Memory Does Not Show

A session lives longer than one seeding. It hands its closer from each seeding
to the next, also from one that fails, and closures can be asked for in
between. What a request is answered must not depend on what was asked before.

The proof runs a resolution twice, once with the closer of the session and once
without any. `Twins` relates the two states: they hold the same facts, not only
the same set of facts, and the closer remembers the closures of just those
objects that have been asked for. Every step of a resolution keeps two states
twins, so both runs end alike, with the same failure or none. The log is left
out: it is where memory does show, because nothing is reported twice.

The relation carries the set of the objects asked for, which grows with each
step. `Asks` describes what it grows by when pairs of a node and a source are
resolved, without running anything: the objects of the binders up to the first
failure. So the number of closures that a session remembers can be read off the
requests alone.

## Main definitions

* `Closer.Remembers`: The closer has been asked for the closures of given objects.
* `Resolution.Asks`: The closure of an object is asked for when pairs are resolved.
* `Resolution.Twins`: Two states that differ in what they remember, and in their logs.
* `Session.Request`, `Session.respond`: What can be asked of a session, and the answer.
* `Session.unaided`: The answer of a session that remembers nothing.
* `Session.after`: The session after some requests.

## Theorems

* `Closer.Remembers.ask`: Asking for a closure adds its object.
* `Resolution.Twins.binderArg`, `Resolution.Twins.resolveArgs`: Arguments keep states twins.
* `Resolution.Twins.resolvePairs`: So do all pairs, and they end alike.
* `Session.respond_unaided`: One request is answered as if nothing were remembered.
* `Session.after_remembers`: What is remembered after some requests.
* `Session.answer_independent_of_history`: No answer depends on the requests before it.
-/

namespace TaintSeed

namespace Closer

/-- What the closer remembers are the closures in `h` of just the objects of `P`, each once. -/
structure Remembers (h : Heap) (c : Closer) (P : Instance → Prop) : Prop where
  faithful : c.Faithful h
  distinct : c.known.keys.Nodup
  asked : ∀ o, o ∈ c.known.keys ↔ P o

theorem fresh_remembers (h : Heap) : fresh.Remembers h (fun _ => False) where
  faithful := ObtainedFrom.fresh.faithful
  distinct := List.nodup_nil
  asked := fun _ => iff_of_false List.not_mem_nil not_false

variable {h : Heap} {c : Closer} {P Q : Instance → Prop}

theorem Remembers.congr (hc : c.Remembers h P) (hPQ : ∀ o, P o ↔ Q o) : c.Remembers h Q :=
  ⟨hc.faithful, hc.distinct, fun o => (hc.asked o).trans (hPQ o)⟩

/-- Asking for a closure adds its object to those that have been asked for. -/
theorem Remembers.ask (hc : c.Remembers h P) (root : Instance) :
    (c.closure h root).value.2.Remembers h (fun o => P o ∨ o = root) := by
  refine ⟨closure_faithful h c root hc.faithful, ?_, fun o => ?_⟩
  · unfold closure
    split
    · exact hc.distinct
    · exact Table.nodup_keys_modify _ _ _ _ hc.distinct
  · unfold closure
    split
    · rename_i s hs
      -- A closure that is remembered has been asked for, so nothing is added.
      have hroot : P root := (hc.asked root).1 ((Table.mem_keys_iff _ _).2 ⟨s, hs⟩)
      rw [hc.asked o]
      exact ⟨Or.inl, fun ho => ho.elim id (fun heq => heq ▸ hroot)⟩
    · exact (Table.mem_keys_modify _ _ _ _ _).trans (or_congr (hc.asked o) Iff.rfl)

/-- The number of closures that are remembered is that of the objects asked for. -/
theorem Remembers.size_eq (hc : c.Remembers h P) :
    {o | P o}.Finite ∧ c.size = {o | P o}.ncard := by
  have hkeys : {o | P o} = {o | o ∈ c.known.keys} := by
    ext o
    exact (hc.asked o).symm
  rcases ncard_setOf_mem c.known.keys hc.distinct with ⟨hfinite, hcard⟩
  rw [hkeys]
  exact ⟨hfinite, by rw [hcard, Table.keys, List.length_map]; rfl⟩

end Closer

namespace Resolution

/-! ## What is asked for -/

/-- A source asks on a node for the closure of `o`: the source is a binder, and `o` is an object of
    one of its arguments before the first that the node does not have. -/
def AsksOn (env : Env) (s : Source) (n : Node) (o : Instance) : Prop :=
  s.kind = .binder ∧ ∃ arg ∈ s.args.takeWhile (isResolvable n), ∃ v,
    argument n arg = .ok v ∧ BinderObject env n arg v o

/-- The closure of `o` is asked for when pairs are resolved in order: one of them asks for it, and
    all before it can be resolved. -/
def Asks (env : Env) (pairs : List (Node × Source)) (o : Instance) : Prop :=
  ∃ before x after, pairs = before ++ x :: after ∧
    (∀ y ∈ before, IsResolvableOn y.2 y.1) ∧ AsksOn env x.2 x.1 o

theorem not_asks_nil (env : Env) (o : Instance) : ¬ Asks env [] o := by
  rintro ⟨before, x, after, hsplit, _⟩
  simp at hsplit

/-- The first pair asks, or it can be resolved and one of the others does. -/
theorem asks_cons (env : Env) (x : Node × Source) (pairs : List (Node × Source)) (o : Instance) :
    Asks env (x :: pairs) o ↔
      AsksOn env x.2 x.1 o ∨ IsResolvableOn x.2 x.1 ∧ Asks env pairs o := by
  constructor
  · rintro ⟨before, y, after, hsplit, hbefore, hy⟩
    cases before with
    | nil =>
        cases hsplit
        exact Or.inl hy
    | cons z before =>
        cases hsplit
        rw [List.forall_mem_cons] at hbefore
        exact Or.inr ⟨hbefore.1, before, y, after, rfl, hbefore.2, hy⟩
  · rintro (hx | ⟨hx, before, y, after, rfl, hbefore, hy⟩)
    · exact ⟨[], x, pairs, rfl, fun _ hz => absurd hz List.not_mem_nil, hx⟩
    · exact ⟨x :: before, y, after, rfl, List.forall_mem_cons.2 ⟨hx, hbefore⟩, hy⟩

/-! ## Resolving with and without memory -/

/-- Two states that hold the same facts. The first remembers the closures of the objects of `P`,
    the second remembers none. -/
structure Twins (env : Env) (P : Instance → Prop) (r u : Resolution) : Prop where
  facts : r.facts = u.facts
  forgetful : u.closer? = none
  remembers : ∃ c, r.closer? = some c ∧ c.Remembers env.heap P

namespace Twins

variable {env : Env} {P Q : Instance → Prop} {r u : Resolution}

theorem congr (h : Twins env P r u) (hPQ : ∀ o, P o ↔ Q o) : Twins env Q r u := by
  rcases h.remembers with ⟨c, hc, hremembers⟩
  exact ⟨h.facts, h.forgetful, c, hc, hremembers.congr hPQ⟩

theorem report (h : Twins env P r u) (es : List Log.Entry) :
    Twins env P (r.report es) (u.report es) :=
  ⟨h.facts, h.forgetful, h.remembers⟩

/-- A loop asks for what its steps ask for. -/
theorem foldl {α : Type} (step : Resolution → α → Resolution) (A : α → Instance → Prop)
    (hstep : ∀ (P : Instance → Prop) (r u : Resolution) (a : α), Twins env P r u →
      Twins env (fun o => P o ∨ A a o) (step r a) (step u a))
    (as : List α) (h : Twins env P r u) :
    Twins env (fun o => P o ∨ ∃ a ∈ as, A a o) (as.foldl step r) (as.foldl step u) := by
  induction as generalizing P r u with
  | nil => exact h.congr (fun o => by simp)
  | cons a as ih => exact (ih (hstep P r u a h)).congr (fun o => by simp [or_assoc])

theorem inputArg (h : Twins env P r u) (n : Node) (arg v : Int) :
    Twins env P (inputArg env n arg v r) (inputArg env n arg v u) := by
  refine ⟨?_, h.forgetful, h.remembers⟩
  unfold Resolution.inputArg
  simp only [h.facts]

/-- Both states are given the same closure, from memory or not. -/
theorem closureOf (h : Twins env P r u) (o : Instance) :
    (closureOf env r o).1 = (closureOf env u o).1 ∧
      Twins env (fun x => P x ∨ x = o) (closureOf env r o).2 (closureOf env u o).2 := by
  rcases h.remembers with ⟨c, hc, hremembers⟩
  unfold Resolution.closureOf
  simp only [hc, h.forgetful]
  refine ⟨Closer.closure_value env.heap c o hremembers.faithful, h.facts, h.forgetful, ?_⟩
  exact ⟨_, rfl, hremembers.ask o⟩

theorem binderObject (h : Twins env P r u) (n : Node) (arg v : Int) (o : Instance) :
    Twins env (fun x => P x ∨ x = o) (binderObject env n arg v r o)
      (binderObject env n arg v u o) := by
  rcases h.closureOf o with ⟨hclosure, hfacts, hforgetful, hremembers⟩
  refine ⟨?_, hforgetful, hremembers⟩
  unfold Resolution.binderObject
  simp only [hclosure, hfacts]

theorem binderArg (h : Twins env P r u) (n : Node) (arg v : Int) :
    Twins env (fun o => P o ∨ BinderObject env n arg v o) (binderArg env n arg v r)
      (binderArg env n arg v u) := by
  have hobjects := (h.report (binderObjects env n arg v).log).foldl
    (Resolution.binderObject env n arg v) (fun o x => x = o)
    (fun _ _ _ o h => h.binderObject n arg v o) (binderObjects env n arg v).value
  refine hobjects.congr (fun o => ?_)
  simp [← mem_binderObjects]

/-- The arguments are refused alike, and those before the first bad one ask for closures. -/
theorem resolveArgs (n : Node) (step : Int → Int → Resolution → Resolution)
    (A : Int → Int → Instance → Prop)
    (hstep : ∀ (P : Instance → Prop) (r u : Resolution) (arg v : Int), Twins env P r u →
      Twins env (fun o => P o ∨ A arg v o) (step arg v r) (step arg v u))
    (args : List Int) (h : Twins env P r u) :
    (resolveArgs n step args r).2 = (resolveArgs n step args u).2 ∧
      Twins env (fun o => P o ∨ ∃ arg ∈ args.takeWhile (isResolvable n), ∃ v,
          argument n arg = .ok v ∧ A arg v o)
        (resolveArgs n step args r).1 (resolveArgs n step args u).1 := by
  induction args generalizing P r u with
  | nil => exact ⟨rfl, h.congr (fun o => by simp)⟩
  | cons arg args ih =>
      simp only [Resolution.resolveArgs]
      cases harg : argument n arg with
      | error e =>
          have hbad : ¬ isResolvable n arg = true := by simp [isResolvable, harg, Except.toOption]
          rw [List.takeWhile_cons_of_neg hbad]
          exact ⟨rfl, h.congr (fun o => by simp)⟩
      | ok v =>
          have hgood : isResolvable n arg = true := by simp [isResolvable, harg, Except.toOption]
          rw [List.takeWhile_cons_of_pos hgood]
          rcases ih (hstep P r u arg v h) with ⟨hfailure, htwins⟩
          exact ⟨hfailure, htwins.congr (fun o => by simp [harg, or_assoc])⟩

theorem resolve (h : Twins env P r u) (s : Source) (n : Node) :
    (resolve env s n r).2 = (resolve env s n u).2 ∧
      Twins env (fun o => P o ∨ AsksOn env s n o) (resolve env s n r).1
        (resolve env s n u).1 := by
  unfold Resolution.resolve
  cases hk : s.kind with
  | input =>
      -- An input asks for no closure, whatever its arguments are.
      rcases resolveArgs n (Resolution.inputArg env n) (fun _ _ _ => False)
        (fun _ _ _ arg v h => (h.inputArg n arg v).congr (fun o => by simp)) s.args h with
        ⟨hfailure, htwins⟩
      exact ⟨congrArg (Option.map (Failure.badArgument s)) hfailure,
        htwins.congr (fun o => by simp [AsksOn, hk])⟩
  | binder =>
      rcases resolveArgs n (Resolution.binderArg env n) (BinderObject env n)
        (fun _ _ _ arg v h => h.binderArg n arg v) s.args h with ⟨hfailure, htwins⟩
      exact ⟨congrArg (Option.map (Failure.badArgument s)) hfailure,
        htwins.congr (fun o => by simp [AsksOn, hk])⟩
  | other code => exact ⟨rfl, h.congr (fun o => by simp [AsksOn, hk])⟩

/-- Pairs end alike, with the same count and the same failure or none. By induction on the list:
    the first pair leaves twins behind, and it fails in both runs or in neither. -/
theorem resolvePairs (h : Twins env P r u) (pairs : List (Node × Source)) (count : Nat) :
    (resolvePairs env pairs count r).2 = (resolvePairs env pairs count u).2 ∧
      Twins env (fun o => P o ∨ Asks env pairs o) (resolvePairs env pairs count r).1
        (resolvePairs env pairs count u).1 := by
  induction pairs generalizing P r u count with
  | nil => exact ⟨rfl, h.congr (fun o => by simp [not_asks_nil])⟩
  | cons x pairs ih =>
      rcases x with ⟨n, s⟩
      have hlog := h.report (env.heap.policy.debug (s.text ++ " matches " ++ n.text))
      rcases hlog.resolve s n with ⟨hfailure, htwins⟩
      have hresolvable := resolve_eq_none_iff env s n
        (r.report (env.heap.policy.debug (s.text ++ " matches " ++ n.text)))
      simp only [Resolution.resolvePairs]
      cases hr : Resolution.resolve env s n
          (r.report (env.heap.policy.debug (s.text ++ " matches " ++ n.text))) with
      | mk r' failure =>
          cases hu : Resolution.resolve env s n
              (u.report (env.heap.policy.debug (s.text ++ " matches " ++ n.text))) with
          | mk u' failure' =>
              rw [hr, hu] at hfailure htwins
              rw [hr] at hresolvable
              obtain rfl : failure = failure' := hfailure
              cases failure with
              | some e =>
                  have hno : ¬ IsResolvableOn s n := fun hc => Option.some_ne_none e (hresolvable.2 hc)
                  exact ⟨rfl, htwins.congr (fun o => by simp [asks_cons, hno])⟩
              | none =>
                  have hyes : IsResolvableOn s n := hresolvable.1 rfl
                  rcases ih htwins (count + 1) with ⟨hrest, htwins'⟩
                  exact ⟨hrest, htwins'.congr (fun o => by simp [asks_cons, hyes, or_assoc])⟩

end Twins

end Resolution

namespace Session

/-! ## A session and its requests -/

/-- What can be asked of a session. -/
inductive Request where
  /-- The facts of sources. -/
  | seed (sources : List Source)
  /-- The closure of an object. -/
  | closure (root : Instance)

/-- What a session answers. -/
inductive Answer where
  /-- Facts with the number of resolved pairs, or why there are none. -/
  | seeded (result : Except Resolution.Stopped (Facts × Nat))
  /-- The elements of a closure. -/
  | elements (closure : ElementSet)

/-- Answers a request. Gives the session afterwards, which may remember more. -/
def respond (s : Session) : Request → Answer × Session
  | .seed sources => (.seeded (s.seed sources).result, (s.seed sources).session)
  | .closure root =>
    let x := s.closer.closure s.heap root
    (.elements x.value.1, { s with closer := x.value.2 })

/-- The session after requests, which are answered in order. -/
def after (s : Session) (requests : List Request) : Session :=
  requests.foldl (fun s x => (s.respond x).2) s

/-- What becomes of sources where no closure is remembered, not even within one seeding. -/
def seedUnaided (s : Session) (sources : List Source) :
    Except Resolution.Stopped (Facts × Nat) :=
  match Resolution.resolveAll ⟨s.graph, s.heap⟩ sources s.seedNodes ⟨.empty, none, []⟩ with
  | (_, _, some e) => .error e
  | (r, count, none) => .ok (r.facts, count)

/-- The answer of a session that remembers nothing. -/
def unaided (s : Session) : Request → Answer
  | .seed sources => .seeded (s.seedUnaided sources)
  | .closure root => .elements (s.heap.closure root).value

/-- The closure of `o` is asked for on the way to the answer of a request. -/
def Asks (s : Session) : Request → Instance → Prop
  | .seed sources, o =>
    Resolution.Asks ⟨s.graph, s.heap⟩ (Resolution.matchingPairs sources s.seedNodes) o
  | .closure root, o => o = root

variable {P : Instance → Prop}

/-- Sources are resolved as if nothing were remembered. Of the session only the closer changes,
    which has then been asked for the objects of the binders too. -/
theorem seed_unaided (s : Session) (hs : s.closer.Remembers s.heap P) (sources : List Source) :
    (s.seed sources).result = s.seedUnaided sources ∧
      ∃ c, (s.seed sources).session = { s with closer := c } ∧
        c.Remembers s.heap (fun o => P o ∨ s.Asks (.seed sources) o) := by
  have hstart : Resolution.Twins ⟨s.graph, s.heap⟩ P ⟨.empty, some s.closer, []⟩
      ⟨.empty, none, []⟩ := ⟨rfl, rfl, s.closer, rfl, hs⟩
  rcases hstart.resolvePairs (Resolution.matchingPairs sources s.seedNodes) 0 with
    ⟨hend, hfacts, _, c, hc, hremembers⟩
  unfold seed seedUnaided
  simp only [Resolution.resolveAll]
  cases hr : Resolution.resolvePairs ⟨s.graph, s.heap⟩
      (Resolution.matchingPairs sources s.seedNodes) 0 ⟨.empty, some s.closer, []⟩ with
  | mk r ending =>
      cases hu : Resolution.resolvePairs ⟨s.graph, s.heap⟩
          (Resolution.matchingPairs sources s.seedNodes) 0 ⟨.empty, none, []⟩ with
      | mk u ending' =>
          rw [hr, hu] at hend hfacts
          rw [hr] at hc
          obtain rfl : ending = ending' := hend
          rcases ending with ⟨count, failure⟩
          simp only at hfacts hc
          cases failure with
          | some e => exact ⟨rfl, c, by simp only [hc, Option.getD_some], hremembers⟩
          | none => exact ⟨by simp only [hfacts], c, by simp only [hc, Option.getD_some], hremembers⟩

/-- One request is answered as if nothing were remembered. -/
theorem respond_unaided (s : Session) (hs : s.closer.Remembers s.heap P) (x : Request) :
    (s.respond x).1 = s.unaided x ∧ ∃ c, (s.respond x).2 = { s with closer := c } ∧
      c.Remembers s.heap (fun o => P o ∨ s.Asks x o) := by
  cases x with
  | seed sources =>
      rcases s.seed_unaided hs sources with ⟨hresult, hsession⟩
      exact ⟨congrArg Answer.seeded hresult, hsession⟩
  | closure root =>
      exact ⟨congrArg Answer.elements (Closer.closure_value s.heap s.closer root hs.faithful),
        _, rfl, hs.ask root⟩

/-- After any requests the session differs from what it was in its closer only, which remembers
    the closures that have been asked for. By induction on the requests. -/
theorem after_remembers (s : Session) (hs : s.closer.Remembers s.heap P)
    (requests : List Request) :
    ∃ c, s.after requests = { s with closer := c } ∧
      c.Remembers s.heap (fun o => P o ∨ ∃ x ∈ requests, s.Asks x o) := by
  induction requests generalizing s P with
  | nil => exact ⟨s.closer, rfl, hs.congr (fun o => by simp)⟩
  | cons x requests ih =>
      rcases s.respond_unaided hs x with ⟨_, c, hnext, hc⟩
      have hafter : s.after (x :: requests) = (s.respond x).2.after requests := rfl
      rw [hafter, hnext]
      -- What a request asks for does not depend on the closer, so the first session can be kept.
      have hsame : ∀ y o, ({ s with closer := c } : Session).Asks y o ↔ s.Asks y o := by
        intro y o
        cases y <;> rfl
      rcases ih { s with closer := c } hc with ⟨c', hlast, hc'⟩
      refine ⟨c', hlast, hc'.congr (fun o => ?_)⟩
      simp [hsame, or_assoc]

/-- Whatever a session of a program has been asked before, it answers the next request as if it
    remembered nothing: with the same facts or the same failure, or with the closure itself. The
    number of closures that it remembers is that of the objects asked for. -/
theorem answer_independent_of_history (c : Config) (p : Program) (requests : List Request) :
    (∀ x, (((ofProgram c p).after requests).respond x).1 = (ofProgram c p).unaided x) ∧
    {o | ∃ x ∈ requests, (ofProgram c p).Asks x o}.Finite ∧
    ((ofProgram c p).after requests).closer.size
      = {o | ∃ x ∈ requests, (ofProgram c p).Asks x o}.ncard := by
  have hfresh : (ofProgram c p).closer.Remembers (ofProgram c p).heap (fun _ => False) :=
    Closer.fresh_remembers _
  rcases after_remembers (ofProgram c p) hfresh requests with ⟨closer, hafter, hremembers⟩
  simp only [false_or] at hremembers
  rw [hafter]
  refine ⟨fun x => ?_, hremembers.size_eq⟩
  rw [(respond_unaided _ hremembers x).1]
  cases x <;> rfl

end Session

end TaintSeed
