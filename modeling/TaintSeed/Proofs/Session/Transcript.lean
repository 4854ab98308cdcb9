import Mathlib.Data.List.Forall2
import TaintSeed.Proofs.Source.Printing
import TaintSeed.Session

/-!
# What a Run Makes of What It Observes

A run asks the policy each time it has something to tell: when the program is
made ready, when sources are resolved and when closures are searched for. To
compare two runs, what a run gets from outside is taken apart from what it makes
of it. From outside come what the builder gives and how long building and
resolving took; `observed` collects that, and `transcript` is the rest, a
function.

Transcripts are compared in two respects. Under another policy, what is computed
is the same and what is printed is filtered. Each entry goes through the gates
of the policy on its own, so this is shown part by part: every part of a log is
the part that is printed if nothing is held back, without what the policy does
not allow. With other readings of the clock the entries are the same except for
the durations that two of them tell.

The builder is a parameter of a run and prints too. What is asked of it is that
it leaves it at that: under a policy it gives what it gives if everything is
printed, with what it printed `filtered`. Then so is what the run observes.

## Main definitions

* `Config.loggingAt`: A configuration with another policy.
* `Build.Quieter`: A build that prints by a policy, and one that prints everything.
* `Session.Outcome.answer`: The facts of a run or its failure.
* `Session.SameButTime`: Two entries differ at most in a duration.
* `Session.transcript`: What a run makes of what it observes.
* `Session.observed`: What a run gets from outside.

## Theorems

* `Session.run_eq_transcript`: A run observes and then computes.
* `Session.transcript_quieter`: What is computed is the same, what is printed is filtered.
* `Session.observed_filtered`: What is observed is filtered like a log.
* `Session.sameButTime_transcript`: The clock is seen in durations alone.
-/

namespace TaintSeed

/-- The configuration with another policy for the log. -/
def Config.loggingAt (c : Config) (q : Log.Policy) : Config :=
  { c with options.logLevel := q.level, options.silenceWarnings := q.silenceWarnings }

@[simp] theorem Config.policy_loggingAt (c : Config) (q : Log.Policy) :
    (c.loggingAt q).policy = q := rfl

@[simp] theorem Config.builderWarnings_loggingAt (c : Config) (q : Log.Policy) :
    (c.loggingAt q).options.builderWarnings = c.options.builderWarnings := rfl

@[simp] theorem Config.showGraph_loggingAt (c : Config) (q : Log.Policy) :
    (c.loggingAt q).options.showGraph = c.options.showGraph := rfl

namespace Build

/-- What was built, with what a policy allows of what was printed. -/
def filtered (q : Log.Policy) (b : Build) : Build := { b with log := q.allowed b.log }

/-- A build that prints by a policy, and one that prints everything: there is no difference but
    that, also not in the order of points-to sets. -/
inductive Quieter (q : Log.Policy) : Build → Build → Prop
  | failed (e : Failure) (log : List Log.Entry) :
      Quieter q ⟨.error e, q.allowed log⟩ ⟨.error e, log⟩
  | built {p p' : Program} (log : List Log.Entry) (graph : p.graph = p'.graph)
      (warnings : p.warnings = p'.warnings) (heap : (p.heap q).Quieter (p'.heap .everything)) :
      Quieter q ⟨.ok p, q.allowed log⟩ ⟨.ok p', log⟩

theorem quieter_filtered (q : Log.Policy) (b : Build) : Quieter q (b.filtered q) b := by
  rcases b with ⟨result, log⟩
  cases result with
  | error e => exact .failed e log
  | ok p => exact .built log rfl rfl ⟨fun _ => rfl, rfl, rfl⟩

end Build

namespace Session

/-- The facts, or why there are none. -/
def Outcome.answer (o : Outcome) : Except Failure Facts := o.result.map Prod.snd

/-- Two entries that differ at most in a duration. -/
inductive SameButTime : Log.Entry → Log.Entry → Prop
  /-- An entry without a duration. -/
  | same (e : Log.Entry) : SameButTime e e
  /-- An entry that tells how long something took. -/
  | timed (before after : String) (elapsed elapsed' : Nat) :
      SameButTime ⟨.info, before ++ (seconds 2 elapsed ++ " s") ++ after⟩
        ⟨.info, before ++ (seconds 2 elapsed' ++ " s") ++ after⟩

/-! ## Observing and computing -/

/-- What a run makes of what the builder gives, if building and resolving take the given times. -/
def transcript (c : Config) (b : Build) (building resolving : Nat) : Logged Outcome :=
  match Source.ofConfig c with
  | .error e => ⟨.unknownKind e, []⟩
  | .ok sources =>
    match b.result with
    | .error e => ⟨.noCallGraph e, b.log⟩
    | .ok p =>
      let s := ofProgram c p
      let log := b.log ++ warningLog c p ++ startLog building s ++ (s.seed sources).log
      match (s.seed sources).result with
      | .error e => ⟨.stopped (s.seed sources).session e, log⟩
      | .ok (f, count) =>
        ⟨.seeded (s.seed sources).session f, log ++ seedLog c.policy resolving f count⟩

section Runs

variable {M : Type → Type} [Monad M]

/-- What a run gets from outside: what is built, and how long building and resolving take. Where a
    run ends before, there is nothing to build or nothing that takes time. -/
def observed (now : M Nat) (c : Config) (build : M Build) : M (Build × Nat × Nat) :=
  match Source.ofConfig c with
  | .error _ => pure (⟨.error .noGraph, []⟩, 0, 0)
  | .ok sources => do
    let before ← now
    let b ← build
    let after ← now
    match b.result with
    | .error _ => pure (b, after - before, 0)
    | .ok p =>
      let before' ← now
      match ((ofProgram c p).seed sources).result with
      | .error _ => pure (b, after - before, 0)
      | .ok _ =>
        let after' ← now
        pure (b, after - before, after' - before')

/-- A run observes and then computes. -/
theorem run_eq_transcript [LawfulMonad M] (now : M Nat) (c : Config) (build : M Build) :
    run now c build = (fun x => transcript c x.1 x.2.1 x.2.2) <$> observed now c build := by
  unfold run start observed
  cases hc : Source.ofConfig c with
  | error e => simp [transcript, hc]
  | ok sources =>
      simp only [bind_assoc, map_bind]
      -- The clock and the builder are asked in the same order on both sides.
      refine bind_congr fun before => bind_congr fun b => bind_congr fun after => ?_
      rcases b with ⟨result, log⟩
      cases result with
      | error e => simp [built, transcript, hc]
      | ok p =>
          simp only [built, pure_bind, map_bind]
          refine bind_congr fun before' => ?_
          cases hr : ((ofProgram c p).seed sources).result with
          | error e => simp [transcript, hc, hr]
          | ok found => simp [transcript, hc, hr]

end Runs

/-! ## Comparing policies -/

section Policies

variable (c : Config) (q : Log.Policy)

theorem ofConfig_loggingAt : Source.ofConfig (c.loggingAt q) = Source.ofConfig c := rfl

theorem warningLog_eq_allowed {p p' : Program} (hwarnings : p.warnings = p'.warnings) :
    warningLog (c.loggingAt q) p = q.allowed (warningLog (c.loggingAt .everything) p') := by
  by_cases hshown : c.options.builderWarnings = true
  · simp only [warningLog, Config.builderWarnings_loggingAt, hshown, ↓reduceIte, hwarnings,
      Config.policy_loggingAt, Log.Policy.allowed_flatMap, ← Log.Policy.warning_eq_allowed]
  · simp only [warningLog, Config.builderWarnings_loggingAt, hshown, Bool.false_eq_true, ↓reduceIte,
      Log.Policy.allowed_nil]

theorem graphLog_eq_allowed (g : Graph) :
    graphLog (c.loggingAt q) g = q.allowed (graphLog (c.loggingAt .everything) g) := by
  by_cases hshown : c.options.showGraph = true
  · simp only [graphLog, Config.showGraph_loggingAt, hshown, ↓reduceIte, Config.policy_loggingAt,
      Log.Policy.allowed_append, Log.Policy.allowed_flatMap, ← Log.Policy.info_eq_allowed]
  · simp only [graphLog, Config.showGraph_loggingAt, hshown, Bool.false_eq_true, ↓reduceIte,
      Log.Policy.allowed_nil]

/-- Traces that are not put together would not have been printed. -/
theorem syntheticLog_eq_allowed (g : Graph) :
    syntheticLog (c.loggingAt q) g = q.allowed (syntheticLog (c.loggingAt .everything) g) := by
  have hall : Log.Policy.everything.reaches .trace = true := rfl
  by_cases hreaches : q.reaches .trace = true
  · simp only [syntheticLog, Config.policy_loggingAt, hreaches, hall, ↓reduceIte,
      Log.Policy.allowed_flatMap, ← Log.Policy.trace_eq_allowed]
  · have hnothing : ∀ message, q.trace message = [] := fun message => if_neg hreaches
    simp only [syntheticLog, Config.policy_loggingAt, hreaches, hall, Bool.false_eq_true, ↓reduceIte,
      Log.Policy.allowed_flatMap, ← Log.Policy.trace_eq_allowed, hnothing]
    exact (List.flatMap_eq_nil_iff.2 fun _ _ => rfl).symm

theorem slicesLog_eq_allowed (g : CallGraph) (s : Slices) :
    s.log q g = q.allowed (s.log .everything g) := by
  unfold Slices.log
  simp only [Log.Policy.allowed_append, ← Log.Policy.debug_eq_allowed]

/-- What a session of a program prints first is filtered. -/
theorem startLog_eq_allowed (elapsed : Nat) {p p' : Program} (hgraph : p.graph = p'.graph) :
    startLog elapsed (ofProgram (c.loggingAt q) p)
      = q.allowed (startLog elapsed (ofProgram (c.loggingAt .everything) p')) := by
  simp only [startLog, ofProgram, sliceLog, Config.policy_loggingAt, Log.Policy.allowed_append,
    hgraph, ← graphLog_eq_allowed, ← syntheticLog_eq_allowed, ← slicesLog_eq_allowed,
    ← Log.Policy.info_eq_allowed]

/-- Sources are resolved in the same way, and what is printed is filtered. -/
theorem seed_quieter {p p' : Program} (hgraph : p.graph = p'.graph)
    (hheap : (p.heap q).Quieter (p'.heap .everything)) (sources : List Source) :
    ((ofProgram (c.loggingAt q) p).seed sources).result
        = ((ofProgram (c.loggingAt .everything) p').seed sources).result ∧
      ((ofProgram (c.loggingAt q) p).seed sources).log
        = q.allowed ((ofProgram (c.loggingAt .everything) p').seed sources).log := by
  -- The nodes are chosen by another option.
  have hnodes : (ofProgram (c.loggingAt q) p).seedNodes
      = (ofProgram (c.loggingAt .everything) p').seedNodes := by
    unfold seedNodes ofProgram
    rw [hgraph]
    rfl
  have hquieter : Resolution.Env.Quieter ⟨p.graph, p.heap q⟩ ⟨p'.graph, p'.heap .everything⟩ :=
    ⟨hgraph, hheap⟩
  have hresolved : ∀ nodes, Resolution.resolveAll ⟨p.graph, p.heap q⟩ sources nodes
        ⟨.empty, some .fresh, []⟩
      = Prod.map (Resolution.filtered q) id (Resolution.resolveAll
          ⟨p'.graph, p'.heap .everything⟩ sources nodes ⟨.empty, some .fresh, []⟩) :=
    fun nodes => hquieter.resolveAll_eq sources nodes ⟨.empty, some .fresh, []⟩
  unfold seed
  rw [hnodes]
  dsimp only [ofProgram, Config.policy_loggingAt]
  rw [hresolved]
  rcases Resolution.resolveAll ⟨p'.graph, p'.heap .everything⟩ sources _
    ⟨.empty, some .fresh, []⟩ with ⟨r, count, e?⟩
  cases e? with
  | some e => exact ⟨rfl, rfl⟩
  | none => exact ⟨rfl, rfl⟩

/-- What is computed is the same, and what is printed is filtered. -/
theorem transcript_quieter {b b' : Build} (hb : Build.Quieter q b b')
    (building resolving : Nat) :
    (transcript (c.loggingAt q) b building resolving).value.answer
        = (transcript (c.loggingAt .everything) b' building resolving).value.answer ∧
      (transcript (c.loggingAt q) b building resolving).log
        = q.allowed (transcript (c.loggingAt .everything) b' building resolving).log := by
  unfold transcript
  rw [ofConfig_loggingAt, ofConfig_loggingAt]
  cases Source.ofConfig c with
  | error e => exact ⟨rfl, rfl⟩
  | ok sources =>
      cases hb with
      | failed e log => exact ⟨rfl, rfl⟩
      | @built p p' log hgraph hwarnings hheap =>
          rcases seed_quieter c q hgraph hheap sources with ⟨hresult, hlog⟩
          -- What is printed up to the end of the resolution, part by part.
          have hprinted : q.allowed log ++ warningLog (c.loggingAt q) p
                ++ startLog building (ofProgram (c.loggingAt q) p)
                ++ ((ofProgram (c.loggingAt q) p).seed sources).log
              = q.allowed (log ++ warningLog (c.loggingAt .everything) p'
                ++ startLog building (ofProgram (c.loggingAt .everything) p')
                ++ ((ofProgram (c.loggingAt .everything) p').seed sources).log) := by
            rw [hlog, warningLog_eq_allowed c q hwarnings, startLog_eq_allowed c q building hgraph]
            simp only [Log.Policy.allowed_append]
          dsimp only
          rw [hresult, hprinted]
          cases ((ofProgram (c.loggingAt .everything) p').seed sources).result with
          | error e => exact ⟨rfl, rfl⟩
          | ok found =>
              refine ⟨rfl, Eq.trans ?_ (q.allowed_append _ _).symm⟩
              exact congrArg _ (q.info_eq_allowed _)

/-- What a run observes under a policy is what it observes if everything is printed, up to what
    the builder prints. -/
theorem observed_filtered {M : Type → Type} [Monad M] [LawfulMonad M] (now : M Nat)
    (build : Log.Policy → M Build) (hbuild : ∀ q, build q = Build.filtered q <$> build .everything) :
    observed now (c.loggingAt q) (build q)
      = (fun x => (x.1.filtered q, x.2)) <$>
          observed now (c.loggingAt .everything) (build .everything) := by
  unfold observed
  rw [ofConfig_loggingAt, ofConfig_loggingAt, hbuild q]
  cases Source.ofConfig c with
  | error e =>
      rw [map_pure]
      rfl
  | ok sources =>
      simp only [map_eq_pure_bind, bind_assoc, pure_bind]
      refine bind_congr fun before => bind_congr fun b => bind_congr fun after => ?_
      rcases b with ⟨result, log⟩
      cases result with
      | error e => simp [Build.filtered]
      | ok p =>
          have hquieter : (p.heap q).Quieter (p.heap .everything) := ⟨fun _ => rfl, rfl, rfl⟩
          have hseed := (seed_quieter c q rfl hquieter sources).1
          simp only [Build.filtered, bind_assoc, hseed]
          refine bind_congr fun before' => ?_
          cases ((ofProgram (c.loggingAt .everything) p).seed sources).result with
          | error e => simp
          | ok found => simp

end Policies

/-! ## Comparing clocks -/

theorem forall₂_sameButTime (es : List Log.Entry) : List.Forall₂ SameButTime es es :=
  List.forall₂_same.2 fun e _ => .same e

/-- A duration is told, or not, however long it is. -/
theorem sameButTime_info (q : Log.Policy) (before after : String) (elapsed elapsed' : Nat) :
    List.Forall₂ SameButTime (q.info (before ++ (seconds 2 elapsed ++ " s") ++ after))
      (q.info (before ++ (seconds 2 elapsed' ++ " s") ++ after)) := by
  unfold Log.Policy.info
  rw [Log.Policy.say_eq, Log.Policy.say_eq]
  split
  · exact .cons (.timed before after elapsed elapsed') .nil
  · exact .nil

theorem sameButTime_startLog (s : Session) (elapsed elapsed' : Nat) :
    List.Forall₂ SameButTime (startLog elapsed s) (startLog elapsed' s) := by
  have hcolon : " s: " = " s" ++ ": " := by decide +kernel
  have htimed := sameButTime_info s.config.policy "Call graph built in "
    (": " ++ toString s.graph.size ++ " nodes") elapsed elapsed'
  unfold startLog
  rw [hcolon]
  simp only [List.append_assoc]
  refine List.rel_append ?_ (forall₂_sameButTime _)
  simpa only [String.append_assoc] using htimed

theorem sameButTime_seedLog (q : Log.Policy) (f : Facts) (count elapsed elapsed' : Nat) :
    List.Forall₂ SameButTime (seedLog q elapsed f count) (seedLog q elapsed' f count) := by
  have htimed := sameButTime_info q ("Seeded " ++ toString f.size ++ " facts at " ++
    toString f.points.length ++ " program points from " ++ toString count ++ " matches in ") ""
    elapsed elapsed'
  simpa only [seedLog, String.append_assoc, String.append_empty] using htimed

/-- The clock is seen in durations alone. -/
theorem sameButTime_transcript (c : Config) (b : Build)
    (building resolving building' resolving' : Nat) :
    List.Forall₂ SameButTime (transcript c b building resolving).log
      (transcript c b building' resolving').log := by
  unfold transcript
  cases Source.ofConfig c with
  | error e => exact .nil
  | ok sources =>
      cases b.result with
      | error e => exact forall₂_sameButTime b.log
      | ok p =>
          dsimp only
          have hstart := List.rel_append (forall₂_sameButTime (b.log ++ warningLog c p))
            (sameButTime_startLog (ofProgram c p) building building')
          have hlog := List.rel_append hstart
            (forall₂_sameButTime ((ofProgram c p).seed sources).log)
          cases ((ofProgram c p).seed sources).result with
          | error e => exact hlog
          | ok found =>
              exact List.rel_append hlog (sameButTime_seedLog _ _ _ resolving resolving')

/-- Entries that differ in a duration are printed or held back together. -/
theorem sameButTime_allowed (q : Log.Policy) (es es' : List Log.Entry)
    (h : List.Forall₂ SameButTime es es') :
    List.Forall₂ SameButTime (q.allowed es) (q.allowed es') := by
  refine List.rel_filter ?_ h
  rintro _ _ (e | ⟨before, after, elapsed, elapsed'⟩)
  · exact Iff.rfl
  · exact Iff.rfl

end Session

end TaintSeed
