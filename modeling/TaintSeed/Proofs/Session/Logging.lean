import TaintSeed.Command.Builder
import TaintSeed.GoProgram.Code
import TaintSeed.Proofs.Session.Outcome
import TaintSeed.Proofs.Session.Transcript

/-!
# The Log Is Only Looked At

A policy says how much a run prints. What must not depend on it is what the run
computes, and what is printed must be what a run that prints everything prints,
without what the policy does not allow. That follows from what is known about
transcripts, for all builders that print and leave it at that, and the builders
here are such builders.

Two things may be different in two runs on one program. One is the clock, which
is seen in durations. The other is the order in which a points-to set is kept,
which is seen among objects of one text. The facts do not depend on it, because
a fact is said without an order, and neither does the failure, because how a
resolution ends is read off the pairs. But objects are reported one by one, so
what is printed does depend on it (`run_shows_order`), unless the texts tell the
objects of each set apart.

## Main definitions

* `Program.Alike`, `Build.Alike`: The same, but for the order of points-to sets.
* `Program.Untied`, `Build.Untied`: The texts tell the objects of each set apart.
* `Session.SameAnswer`: The same failure, or facts that hold the same.

## Theorems

* `Session.sameAnswer_transcript`: The order of points-to sets is not seen in answers.
* `Session.builder_filtered`: Builders print and leave it at that.
* `Session.run_filters`: A policy filters the log and does nothing else.
* `Session.run_shows_order`: What is printed shows the order of objects of one text.
-/

namespace TaintSeed

/-- The programs are the same, but their points-to sets may be kept in another order. -/
structure Program.Alike (p p' : Program) : Prop where
  graph : p.graph = p'.graph
  objects : ∀ key o, o ∈ (p.pointsTo?.getD .silent).objects key ↔
    o ∈ (p'.pointsTo?.getD .silent).objects key
  hierarchy : p.hierarchy?.getD default = p'.hierarchy?.getD default
  warnings : p.warnings = p'.warnings

/-- The texts tell the objects of each points-to set apart. -/
def Program.Untied (p : Program) : Prop := (p.pointsTo?.getD .silent).Untied

theorem Program.Alike.heap {p p' : Program} (hp : p.Alike p') (q q' : Log.Policy) :
    (p.heap q).Alike (p'.heap q') := ⟨hp.objects, hp.hierarchy⟩

namespace Build

/-- Two builds fail in the same way, or they give programs that are alike. The same is printed. -/
inductive Alike : Build → Build → Prop
  | failed (e : Failure) (log : List Log.Entry) : Alike ⟨.error e, log⟩ ⟨.error e, log⟩
  | built {p p' : Program} (log : List Log.Entry) (alike : p.Alike p') :
      Alike ⟨.ok p, log⟩ ⟨.ok p', log⟩

/-- If there is a program, the texts tell the objects of its points-to sets apart. -/
def Untied (b : Build) : Prop := ∀ p, b.result = .ok p → p.Untied

theorem Alike.quieter {b b' : Build} (hb : b.Alike b') (hu : b.Untied) (q : Log.Policy) :
    Quieter q (b.filtered q) b' := by
  cases hb with
  | failed e log => exact .failed e log
  | @built p p' log alike =>
      exact .built log alike.graph alike.warnings ((alike.heap q .everything).quieter (hu p rfl) rfl)

end Build

namespace Session

/-- The same failure, or facts that hold the same. -/
inductive SameAnswer : Except Failure Facts → Except Failure Facts → Prop
  | failed (e : Failure) : SameAnswer (.error e) (.error e)
  | seeded {f f' : Facts} (same : ∀ q t e, f.Holds q t e ↔ f'.Holds q t e) :
      SameAnswer (.ok f) (.ok f')

/-! ## Comparing orders -/

/-- Two sessions that resolve sources on the same nodes both fail, for the same reason, or neither
    does. -/
theorem seedUnaided_ending (s s' : Session) (hnodes : s.seedNodes = s'.seedNodes)
    (sources : List Source) :
    (∃ e, s.seedUnaided sources = .error e ∧ s'.seedUnaided sources = .error e) ∨
    ∃ f f' count, s.seedUnaided sources = .ok (f, count) ∧
      s'.seedUnaided sources = .ok (f', count) := by
  have hends := Resolution.resolvePairs_ending ⟨s.graph, s.heap⟩ ⟨s'.graph, s'.heap⟩
    (Resolution.matchingPairs sources s'.seedNodes) 0 ⟨.empty, none, []⟩ ⟨.empty, none, []⟩
  unfold seedUnaided Resolution.resolveAll
  rw [hnodes]
  revert hends
  generalize Resolution.resolvePairs ⟨s.graph, s.heap⟩ _ 0 _ = x
  generalize Resolution.resolvePairs ⟨s'.graph, s'.heap⟩ _ 0 _ = x'
  rcases x with ⟨r, count, e?⟩
  rcases x' with ⟨r', ending⟩
  rintro rfl
  cases e? with
  | some e => exact Or.inl ⟨e, rfl, rfl⟩
  | none => exact Or.inr ⟨r.facts, r'.facts, count, rfl, rfl⟩

/-- Neither the policy nor the order of points-to sets has a part in the facts or in the failure. -/
theorem seed_alike (c : Config) (q q' : Log.Policy) {p p' : Program} (hp : p.Alike p')
    (sources : List Source) :
    (∃ e, ((ofProgram (c.loggingAt q) p).seed sources).result = .error e ∧
      ((ofProgram (c.loggingAt q') p').seed sources).result = .error e) ∨
    ∃ f f' count, ((ofProgram (c.loggingAt q) p).seed sources).result = .ok (f, count) ∧
      ((ofProgram (c.loggingAt q') p').seed sources).result = .ok (f', count) ∧
      ∀ x t e, f.Holds x t e ↔ f'.Holds x t e := by
  have hnodes : (ofProgram (c.loggingAt q) p).seedNodes
      = (ofProgram (c.loggingAt q') p').seedNodes := by
    unfold seedNodes ofProgram
    rw [hp.graph]
    rfl
  have hseeded : ∀ (s : Source) (n : Node) x t e,
      Resolution.SeededBy ⟨p.graph, p.heap q⟩ s n x t e ↔
        Resolution.SeededBy ⟨p'.graph, p'.heap q'⟩ s n x t e := by
    intro s n x t e
    rw [hp.graph]
    exact ⟨fun h => h.of_alike (hp.heap q q'), fun h => h.of_alike (hp.heap q q').symm⟩
  rw [(seed_unaided _ (Closer.fresh_remembers _) sources).1,
    (seed_unaided _ (Closer.fresh_remembers _) sources).1]
  refine (seedUnaided_ending _ _ hnodes sources).imp_right ?_
  rintro ⟨f, f', count, hok, hok'⟩
  refine ⟨f, f', count, hok, hok', fun x t e => ?_⟩
  rw [seedUnaided_facts _ sources f count hok, seedUnaided_facts _ sources f' count hok', hnodes]
  exact exists_congr fun y => and_congr_right fun _ => hseeded y.2 y.1 x t e

/-- What is computed depends neither on the policy nor on the clock nor on the order in which
    points-to sets are kept. -/
theorem sameAnswer_transcript (c : Config) (q q' : Log.Policy) {b b' : Build} (hb : b.Alike b')
    (building resolving building' resolving' : Nat) :
    SameAnswer (transcript (c.loggingAt q) (b.filtered q) building resolving).value.answer
      (transcript (c.loggingAt q') (b'.filtered q') building' resolving').value.answer := by
  unfold transcript
  rw [ofConfig_loggingAt, ofConfig_loggingAt]
  cases Source.ofConfig c with
  | error e => exact .failed _
  | ok sources =>
      cases hb with
      | failed e log => exact .failed _
      | @built p p' log hp =>
          dsimp only [Build.filtered]
          rcases seed_alike c q q' hp sources with ⟨e, herr, herr'⟩ | ⟨f, f', count, hok, hok', hsame⟩
          · rw [herr, herr']
            exact .failed _
          · rw [hok, hok']
            exact .seeded hsame

/-! ## A sample in two orders -/

open PointsTo.Table (looped unrolled sited)

/-- A method with one parameter. -/
def handle : Node :=
  ⟨some 0, ⟨"app", "Handler", "handle", "(Lapp/Data;)V"⟩, "", .application, false, [1],
    [.ofClass "Lapp/Data;"], 1⟩

/-- A program of this method alone, whose parameter may refer to the given objects. -/
def pointing (os : List Instance) : Program where
  graph := ⟨[handle], ∅, ∅, []⟩
  pointsTo? := some (.recorded (PointsTo.Table.add ∅ (.localValue 0 1) os))
  hierarchy? := some
    { classes := [⟨"Lapp/Data;", "", false, [⟨"size", ⟨"I", .primitive⟩⟩]⟩]
      distinct := by decide +kernel
      acyclic := by decide +kernel }
  warnings := []

/-- A binder on the method. -/
def handleConfig : Config :=
  { libraryConfig with entries := [⟨.plain "app" "Handler" "" "", [0], "binder"⟩] }

theorem mem_objects_pointing (os : List Instance) (key : PointsTo.Key) (o : Instance) :
    o ∈ ((pointing os).pointsTo?.getD .silent).objects key ↔
      PointsTo.Key.localValue 0 1 = key ∧ o ∈ os :=
  (PointsTo.Table.mem_objects_add ∅ _ key os o).trans
    (or_iff_right (by simp [PointsTo.Table.objects]))

theorem pointing_alike {os os' : List Instance} (h : os.Perm os') :
    (pointing os).Alike (pointing os') where
  graph := rfl
  objects := by
    intro key o
    rw [mem_objects_pointing, mem_objects_pointing, h.mem_iff]
  hierarchy := rfl
  warnings := rfl

theorem untied_pointing : (pointing [sited, looped]).Untied := by
  have hapart : ∀ a ∈ [sited, looped], ∀ b ∈ [sited, looped],
      Text.Bytes.ofText a.text = Text.Bytes.ofText b.text → a = b := by decide +kernel
  intro key a ha b hb
  exact hapart a ((mem_objects_pointing _ key a).1 ha).2 b ((mem_objects_pointing _ key b).1 hb).2

/-- The binder, read. -/
def handleSource : Source := Config.Entry.source ⟨.plain "app" "Handler" "" "", [0], "binder"⟩

/-- If the two objects have one text, the binder is resolved on them in the order in which they
    were recorded. -/
theorem seed_pointing (q : Log.Policy) (a b : Instance) (hab : a ≠ b) (htied : a.Tied b) :
    ((ofProgram (handleConfig.loggingAt q) (pointing [a, b])).seed [handleSource]).log
      = ([a, b].foldl
          (Resolution.binderObject ⟨(pointing [a, b]).graph, (pointing [a, b]).heap q⟩ handle 0 1)
          ⟨.empty, some .fresh, q.debug (handleSource.text ++ " matches " ++ handle.text)⟩).log := by
  have hmatch : handleSource.matches handle = true := by decide +kernel
  have hkind : handleSource.kind = .binder := by decide +kernel
  have hargs : handleSource.args = [0] := rfl
  have hargument : Resolution.argument handle 0 = .ok 1 := rfl
  have hpairs : Resolution.matchingPairs [handleSource]
      (ofProgram (handleConfig.loggingAt q) (pointing [a, b])).seedNodes
        = [(handle, handleSource)] := by
    have hnodes : (ofProgram (handleConfig.loggingAt q) (pointing [a, b])).seedNodes = [handle] :=
      rfl
    rw [hnodes, Resolution.matchingPairs, List.mergeSort_singleton]
    simp [hmatch]
  have hobjects : Resolution.objectsOf ⟨(pointing [a, b]).graph, (pointing [a, b]).heap q⟩ handle 1
      = [a, b] := PointsTo.Table.objects_pair _ a b hab htied
  unfold seed Resolution.resolveAll
  rw [hpairs]
  simp only [Resolution.resolvePairs, Resolution.resolve, hkind, hargs, Resolution.resolveArgs,
    hargument, Option.map_none, Resolution.binderArg, Resolution.binderObjects]
  dsimp only [ofProgram]
  rw [Config.policy_loggingAt, hobjects]
  simp only [Resolution.report, List.nil_append, List.append_nil]
  rfl

/-! ## The filter -/

/-- The builders of the commands print, and leave it at that. -/
theorem builder_filtered {M : Type → Type} [Monad M] [LawfulMonad M] (c : Config) (q : Log.Policy)
    (host : Command.Host M) (builder : Command.Builder) :
    builder.build host (c.loggingAt q)
      = Build.filtered q <$> builder.build host (c.loggingAt .everything) := by
  cases builder with
  | packages patterns mode withTests =>
      simp only [Command.Builder.build, map_pure, Build.filtered, Config.policy_loggingAt,
        ← Log.Policy.info_eq_allowed]
  | model given =>
      have hlocated : Command.Builder.located host (c.loggingAt q) given
          = Command.Builder.located host (c.loggingAt .everything) given := rfl
      simp only [Command.Builder.build, map_bind, hlocated, Config.policy_loggingAt]
      refine bind_congr fun path => bind_congr fun answer => ?_
      cases answer with
      | error e =>
          simp only [map_pure, Build.filtered, ← Log.Policy.info_eq_allowed]
      | ok text =>
          dsimp only
          cases Command.Builder.ofText path text with
          | error e => simp only [map_pure, Build.filtered, ← Log.Policy.info_eq_allowed]
          | ok found =>
              simp only [map_pure, Build.filtered, Command.Builder.modelLog,
                Log.Policy.allowed_append, ← Log.Policy.info_eq_allowed,
                ← Log.Policy.debug_eq_allowed]

/-- So does the builder of Go code. -/
theorem program_filtered (q : Log.Policy) (d : GoProgram.Declarations) (isApp : String → Bool)
    (code : GoProgram.Code) :
    code.program q d isApp = (code.program .everything d isApp).map (Logged.filtered q) := by
  unfold GoProgram.Code.program
  dsimp only
  cases GoProgram.Code.connectAll (code.placing d isApp) code.calls (code.placing d isApp).graph with
  | error e => rfl
  | ok g =>
      dsimp only
      cases Hierarchy.ofClasses (d.classes (code.metTypes d)) with
      | error e => rfl
      | ok h => exact congrArg (fun log => Except.ok (Logged.mk _ log)) (q.debug_eq_allowed _)

/-- A policy filters the log and does nothing else, if the builder prints and leaves it at that.
    Under all policies a run gives the same facts or the same failure, and what it prints is what
    a run that prints everything prints, without what the policy does not allow.

    Both are about runs that see the same clock and the same program. In general a run computes its
    transcript from what it observes. If the clock shows other times and the points-to sets of the
    program are kept in another order, then the facts or the failure are still the same. What is
    printed is the same but for durations, in this order, if the texts tell the objects of each
    points-to set apart. -/
theorem run_filters {M : Type → Type} [Monad M] [LawfulMonad M] (now : M Nat) (c : Config)
    (build : Log.Policy → M Build) (hbuild : ∀ q, build q = Build.filtered q <$> build .everything)
    (q q' : Log.Policy) :
    (fun r => r.value.answer) <$> run now (c.loggingAt q) (build q)
      = (fun r => r.value.answer) <$> run now (c.loggingAt q') (build q') ∧
    (fun r => r.log) <$> run now (c.loggingAt q) (build q)
      = (fun r => q.allowed r.log) <$> run now (c.loggingAt .everything) (build .everything) ∧
    run now (c.loggingAt q) (build q)
      = (fun x => transcript (c.loggingAt q) (x.1.filtered q) x.2.1 x.2.2) <$>
          observed now (c.loggingAt .everything) (build .everything) ∧
    (∀ (b b' : Build) (building resolving building' resolving' : Nat), b.Alike b' →
      SameAnswer (transcript (c.loggingAt q) (b.filtered q) building resolving).value.answer
        (transcript (c.loggingAt q') (b'.filtered q') building' resolving').value.answer ∧
      (b.Untied → List.Forall₂ SameButTime
        (transcript (c.loggingAt q) (b.filtered q) building resolving).log
        (q.allowed (transcript (c.loggingAt .everything) b' building' resolving').log))) ∧
    (∀ (host : Command.Host M) (builder : Command.Builder),
      builder.build host (c.loggingAt q)
        = Build.filtered q <$> builder.build host (c.loggingAt .everything)) ∧
    ∀ (d : GoProgram.Declarations) (isApp : String → Bool) (code : GoProgram.Code),
      code.program q d isApp = (code.program .everything d isApp).map (Logged.filtered q) := by
  have hrun : ∀ q, run now (c.loggingAt q) (build q)
      = (fun x => transcript (c.loggingAt q) (x.1.filtered q) x.2.1 x.2.2) <$>
          observed now (c.loggingAt .everything) (build .everything) := by
    intro q
    rw [run_eq_transcript, observed_filtered c q now build hbuild, Functor.map_map]
  have hquieter : ∀ q (b : Build), Build.Quieter q (b.filtered q) b :=
    fun q b => b.quieter_filtered q
  refine ⟨?_, ?_, hrun q, fun b b' building resolving building' resolving' hb => ⟨?_, fun hu => ?_⟩,
    builder_filtered c q, program_filtered q⟩
  · simp only [hrun, Functor.map_map, (transcript_quieter c _ (hquieter _ _) _ _).1]
  · rw [run_eq_transcript now (c.loggingAt .everything)]
    simp only [hrun, Functor.map_map, (transcript_quieter c _ (hquieter _ _) _ _).2]
  · exact sameAnswer_transcript c q q' hb building resolving building' resolving'
  · rw [(transcript_quieter c q (hb.quieter hu q) building resolving).2]
    exact sameButTime_allowed q _ _ (sameButTime_transcript _ b' _ _ _ _)

/-- The sample run answers the same without a log and with all of it but warnings. What it prints
    in between is a part of the whole log, also if the two objects are kept the other way round. -/
theorem run_filters_pointing :
    (fun r => r.value.answer) <$> run tick (handleConfig.loggingAt ⟨-2, false⟩)
        (pure (Build.filtered ⟨-2, false⟩ ⟨.ok (pointing [sited, looped]), [⟨.debug, "read"⟩]⟩))
      = (fun r => r.value.answer) <$> run tick (handleConfig.loggingAt ⟨9, true⟩)
          (pure (Build.filtered ⟨9, true⟩ ⟨.ok (pointing [sited, looped]), [⟨.debug, "read"⟩]⟩)) ∧
    List.Forall₂ SameButTime
      (transcript (handleConfig.loggingAt ⟨4, true⟩) ⟨.ok (pointing [sited, looped]), []⟩ 1 2).log
      (Log.Policy.allowed ⟨4, true⟩
        (transcript (handleConfig.loggingAt .everything) ⟨.ok (pointing [looped, sited]), []⟩
          3 4).log) := by
  have hbuild : ∀ q : Log.Policy,
      (pure (Build.filtered q ⟨.ok (pointing [sited, looped]), [⟨.debug, "read"⟩]⟩) : StateM Nat Build)
        = Build.filtered q <$> pure (Build.filtered .everything
            ⟨.ok (pointing [sited, looped]), [⟨.debug, "read"⟩]⟩) := fun q => rfl
  rcases run_filters tick handleConfig _ hbuild ⟨-2, false⟩ ⟨9, true⟩ with ⟨hanswer, _⟩
  rcases run_filters tick handleConfig _ hbuild ⟨4, true⟩ ⟨4, true⟩ with ⟨_, _, _, htranscript, _⟩
  have halike : (pointing [sited, looped]).Alike (pointing [looped, sited]) :=
    pointing_alike (.swap looped sited [])
  refine ⟨hanswer, (htranscript _ _ 1 2 3 4 (.built [] halike)).2 ?_⟩
  rintro p ⟨⟩
  exact untied_pointing

/-- Where no time passes, a run is its transcript. -/
theorem run_id_eq_transcript (c : Config) (b : Build) :
    run (m := Id) (pure 0) c (pure b) = transcript c b 0 0 := by
  unfold run start transcript
  cases Source.ofConfig c with
  | error e => rfl
  | ok sources =>
      rcases b with ⟨result, log⟩
      cases result with
      | error e => rfl
      | ok p =>
          simp only [built, pure_bind]
          cases ((ofProgram c p).seed sources).result with
          | error e => rfl
          | ok found => rfl

/-- What is told about how something was done has no durations. -/
theorem debug_eq_of_sameButTime {es es' : List Log.Entry} (h : List.Forall₂ SameButTime es es') :
    es.filter (fun e => e.severity == .debug) = es'.filter (fun e => e.severity == .debug) := by
  induction h with
  | nil => rfl
  | cons he _ ih =>
      cases he with
      | same e => rw [List.filter_cons, List.filter_cons, ih]
      | timed before after elapsed elapsed' => exact ih

-- Behind what is told about the sources there is nothing of that kind.
theorem debug_transcript (c : Config) (sources : List Source)
    (hc : Source.ofConfig c = .ok sources) (p : Program) (building resolving : Nat) :
    (transcript c ⟨.ok p, []⟩ building resolving).log.filter (fun e => e.severity == .debug)
      = (warningLog c p ++ startLog building (ofProgram c p)).filter
          (fun e => e.severity == .debug)
        ++ ((ofProgram c p).seed sources).log.filter (fun e => e.severity == .debug) := by
  have hseedLog : ∀ f count,
      (seedLog c.policy resolving f count).filter (fun e => e.severity == .debug) = [] := by
    intro f count
    unfold seedLog Log.Policy.info
    rw [Log.Policy.say_eq]
    split
    · rfl
    · rfl
  unfold transcript
  rw [hc]
  dsimp only
  cases ((ofProgram c p).seed sources).result with
  | error e => simp only [List.nil_append, List.filter_append]
  | ok found => simp only [List.nil_append, List.filter_append, hseedLog, List.append_nil]

/-- Two runs on one program, whose only points-to set has two objects of one text. They print what
    they tell about these objects in two orders, so what the first one prints is not a part of what
    the second one does. -/
theorem run_shows_order :
    Build.Alike ⟨.ok (pointing [looped, unrolled]), []⟩ ⟨.ok (pointing [unrolled, looped]), []⟩ ∧
    ¬ List.Forall₂ SameButTime
        (run (m := Id) (pure 0) (handleConfig.loggingAt ⟨4, false⟩)
          (pure ⟨.ok (pointing [looped, unrolled]), []⟩)).log
        (Log.Policy.allowed ⟨4, false⟩ (run (m := Id) (pure 0) (handleConfig.loggingAt .everything)
          (pure ⟨.ok (pointing [unrolled, looped]), []⟩)).log) := by
  refine ⟨.built [] (pointing_alike (.swap unrolled looped [])), fun hsame => ?_⟩
  have hknown : ¬ handleConfig.HasUnknownKind := by
    rintro ⟨e, he, hunknown⟩
    rw [List.mem_singleton.1 he] at hunknown
    exact absurd hunknown (by decide +kernel)
  have hsources : Source.ofConfig (handleConfig.loggingAt ⟨4, false⟩) = .ok [handleSource] :=
    Source.ofConfig_eq_ok handleConfig hknown
  have hne : looped ≠ unrolled := by decide
  have htied : looped.Tied unrolled := by
    unfold Instance.Tied
    decide +kernel
  have hfull := (transcript_quieter handleConfig ⟨4, false⟩
    (Build.quieter_filtered _ ⟨.ok (pointing [unrolled, looped]), []⟩) 0 0).2
  rw [run_id_eq_transcript, run_id_eq_transcript, ← hfull] at hsame
  have hdebug := debug_eq_of_sameButTime hsame
  dsimp only [Build.filtered, Log.Policy.allowed_nil] at hdebug
  rw [debug_transcript _ _ hsources, debug_transcript _ _ hsources,
    seed_pointing _ _ _ hne htied, seed_pointing _ _ _ hne.symm htied.symm] at hdebug
  -- Both runs tell the same until they come to the source.
  have hrest := List.append_cancel_left hdebug
  exact absurd hrest (by decide +kernel)

end Session

end TaintSeed
