import TaintSeed.Proofs.Model.Assembly
import TaintSeed.Proofs.Model.Translation
import TaintSeed.Proofs.Session.Seeding
import TaintSeed.Proofs.Source.Failure

/-!
# How a Run Ends

A run checks its configuration, builds a program and resolves sources, and each
of these can fail. The failures come from different places, which wrap those of
the places below them. This module says from the configuration and the model
alone how a run ends.

A failure is recognised by the sentinels in its chain, and in a run the chain
has one of three. That a source is not implemented is found in two places: in
the configuration, where a word stands for no kind, and on a node, where a source
has a kind that cannot be resolved. The second does not happen in a run, because
the first has been ruled out by then (`seed_failure`). So the sentinels never
mix: what is left for the nodes are arguments that are not there.

A run works in any lawful monad. What it ends in does not depend on the clock
or on what the builder does on the way, so the run is a log of some kind with a
fixed outcome beside it. `conclusion` is that outcome and `run_eq_conclusion`
says so; everything after it is about values.

## Main definitions

* `Config.HasUnknownKind`: An entry has a kind that is not known.
* `Program.HasBadArgument`: An entry names an argument that a node does not have.
* `Model.builder`: The builder that gives the program of a model.
* `Session.Outcome.FailsFor`: A run fails, and the failure is recognised by a sentinel.
* `Session.conclusion`: The outcome of a run, without its effects.
* `Session.EndsAs`: Which outcome belongs to a configuration and a model.

## Theorems

* `Source.ofEntries_eq_error`, `Source.ofEntries_eq_ok`: When a configuration has sources.
* `Session.seed_failure`: No seeding fails for a kind that is not known.
* `Session.seedUnaided_isOk_iff_arguments`: A seeding succeeds if no argument is bad.
* `Session.run_eq_conclusion`: A run has one outcome, and its effects only make the log.
* `Session.run_ends`: How a run ends.
-/

namespace TaintSeed

/-! ## Kinds that are not known -/

/-- The word for the kind is given and stands for no kind. -/
def Config.Entry.HasUnknownKind (e : Config.Entry) : Prop :=
  e.kind ≠ "" ∧ Text.Keyword.lower e.kind ≠ "input" ∧ Text.Keyword.lower e.kind ≠ "binder"

instance (e : Config.Entry) : Decidable e.HasUnknownKind :=
  inferInstanceAs (Decidable (_ ∧ _ ∧ _))

/-- An entry has a kind that is not known. -/
def Config.HasUnknownKind (c : Config) : Prop := ∃ e ∈ c.entries, e.HasUnknownKind

/-- The source of an entry whose kind is known. -/
def Config.Entry.source (e : Config.Entry) : Source :=
  ⟨e.method.compile, e.args, if Text.Keyword.lower e.kind = "binder" then .binder else .input⟩

theorem Config.Entry.source_kind (e : Config.Entry) :
    e.source.kind = .input ∨ e.source.kind = .binder := by
  unfold source
  split
  · exact Or.inr rfl
  · exact Or.inl rfl

namespace Source

theorem ofEntry_eq_error (e : Config.Entry) (he : e.HasUnknownKind) :
    ∃ cause, ofEntry e = .error cause := by
  rcases he with ⟨hgiven, hinput, hbinder⟩
  refine ⟨⟨e.method, ⟨e.kind⟩⟩, ?_⟩
  simp [ofEntry, SourceKind.ofName, hgiven, hinput, hbinder]

theorem ofEntry_eq_ok (e : Config.Entry) (he : ¬ e.HasUnknownKind) :
    ofEntry e = .ok e.source := by
  unfold ofEntry SourceKind.ofName Config.Entry.source
  by_cases hgiven : e.kind = ""
  · -- The word that is taken instead, and the empty word, in lower case.
    have hinput : Text.Keyword.lower "input" = "input" := by decide
    have hempty : Text.Keyword.lower "" ≠ "binder" := by decide
    simp [hgiven, hinput, hempty]
  · by_cases hinput : Text.Keyword.lower e.kind = "input"
    · simp [hgiven, hinput]
    · have hbinder : Text.Keyword.lower e.kind = "binder" := by
        by_contra hbinder
        exact he ⟨hgiven, hinput, hbinder⟩
      simp [hgiven, hbinder]

/-- Entries of which one has a kind that is not known have no sources. -/
theorem ofEntries_eq_error (es : List Config.Entry) (hes : ∃ e ∈ es, e.HasUnknownKind) :
    ∃ cause, ofEntries es = .error cause := by
  induction es with
  | nil =>
      rcases hes with ⟨e, he, _⟩
      exact absurd he List.not_mem_nil
  | cons x es ih =>
      rw [ofEntries]
      by_cases hx : x.HasUnknownKind
      · rcases ofEntry_eq_error x hx with ⟨cause, hcause⟩
        exact ⟨cause, by rw [hcause]⟩
      · have htail : ∃ e ∈ es, e.HasUnknownKind := by
          rcases hes with ⟨e, he, hunknown⟩
          rcases List.mem_cons.1 he with rfl | he
          · exact absurd hunknown hx
          · exact ⟨e, he, hunknown⟩
        rcases ih htail with ⟨cause, hcause⟩
        exact ⟨cause, by rw [ofEntry_eq_ok x hx, hcause]⟩

/-- Entries whose kinds are known have a source each. -/
theorem ofEntries_eq_ok (es : List Config.Entry) (hes : ∀ e ∈ es, ¬ e.HasUnknownKind) :
    ofEntries es = .ok (es.map Config.Entry.source) := by
  induction es with
  | nil => rfl
  | cons x es ih =>
      rcases List.forall_mem_cons.1 hes with ⟨hx, hes⟩
      rw [ofEntries, ofEntry_eq_ok x hx, ih hes]
      rfl

/-- A configuration whose kinds are known has a source for each of its entries. -/
theorem ofConfig_eq_ok (c : Config) (hc : ¬ c.HasUnknownKind) :
    ofConfig c = .ok (c.entries.map Config.Entry.source) :=
  ofEntries_eq_ok c.entries (fun e he hunknown => hc ⟨e, he, hunknown⟩)

/-- The sources of a configuration are inputs and binders. -/
theorem kind_of_mem_ofConfig (c : Config) (sources : List Source)
    (hc : ofConfig c = .ok sources) (s : Source) (hs : s ∈ sources) :
    s.kind = .input ∨ s.kind = .binder := by
  have hknown : ¬ c.HasUnknownKind := by
    intro hunknown
    rcases ofEntries_eq_error c.entries hunknown with ⟨cause, hcause⟩
    rw [ofConfig, hcause] at hc
    cases hc
  rw [ofConfig_eq_ok c hknown] at hc
  cases hc
  rcases List.mem_map.1 hs with ⟨e, _, rfl⟩
  exact e.source_kind

end Source

/-! ## Arguments that are not there -/

/-- An entry names a node on which sources are looked for, and an argument that it lacks. -/
def Program.HasBadArgument (p : Program) (c : Config) : Prop :=
  ∃ n ∈ p.graph.nodes, c.Considers n ∧ ∃ e ∈ c.entries,
    e.method.compile.matches n.method = true ∧ ∃ arg ∈ e.args, n.LacksArgument arg

instance (p : Program) (c : Config) : Decidable (p.HasBadArgument c) :=
  inferInstanceAs (Decidable (∃ n ∈ p.graph.nodes, _ ∧ ∃ e ∈ c.entries, _ ∧ ∃ arg ∈ e.args, _))

/-! ## The builder of a model -/

/-- The builder that gives the program of a model. How it words a refusal, and what it does and
    reports on the way, is left open. -/
def Model.builder {M : Type → Type} [Functor M] (m : Model) (describe : Model.Invalid → String)
    (act : M (List Log.Entry)) : M Build :=
  (fun log => ⟨m.program.mapError (fun e => .failed (describe e)), log⟩) <$> act

/-- The call graph of a model's program is built by the operations on graphs. -/
theorem Model.program_graph_built (m : Model) (p : Program) (hp : m.program = .ok p) :
    p.graph.Built := by
  rcases program_eq_ok m p hp with ⟨_, g, labels, _, _, hg, _, rfl⟩
  exact (graph_assembly m g labels hg).built

namespace Session

/-- The run gives no facts, but a failure that is recognised by the given sentinel. -/
def Outcome.FailsFor (o : Outcome) (why : Sentinel) : Prop :=
  ∃ e, o.result = .error e ∧ e.chain = [why]

/-! ## Seeding -/

/-- No seeding of inputs and binders fails for a kind that is not known. -/
theorem seed_failure (s : Session) (sources : List Source)
    (hkind : ∀ x ∈ sources, x.kind = .input ∨ x.kind = .binder) (e : Resolution.Stopped)
    (he : (s.seed sources).result = .error e) : (Failure.stopped e).chain = [.badArgument] := by
  have hpairs : ∀ x ∈ Resolution.matchingPairs sources s.seedNodes,
      x.2.kind = .input ∨ x.2.kind = .binder :=
    fun x hx => hkind x.2 ((Resolution.mem_matchingPairs _ _ x).1 hx).2.1
  unfold seed at he
  simp only [Resolution.resolveAll] at he
  cases hr : Resolution.resolvePairs ⟨s.graph, s.heap⟩
      (Resolution.matchingPairs sources s.seedNodes) 0 ⟨.empty, some s.closer, []⟩ with
  | mk r ending =>
      rcases ending with ⟨count, failure⟩
      rw [hr] at he
      cases failure with
      | none => cases he
      | some e' =>
          cases he
          rcases Resolution.resolvePairs_failure _ _ 0 _ e hpairs (by rw [hr]) with ⟨bad, hbad⟩
          rw [Failure.chain, Resolution.Stopped.chain, hbad, Resolution.Failure.chain,
            Resolution.BadArgument.chain_eq]

/-- The sources of a configuration whose kinds are known can be resolved on a program if they name
    no bad argument. -/
theorem seedUnaided_isOk_iff_arguments (c : Config) (p : Program) (hg : p.graph.WellFormed) :
    (∃ f count, (ofProgram c p).seedUnaided (c.entries.map Config.Entry.source)
      = .ok (f, count)) ↔ ¬ p.HasBadArgument c := by
  rw [seedUnaided_isOk_iff]
  constructor
  · rintro hall ⟨n, hn, hconsidered, e, he, hmatch, arg, harg, hlacks⟩
    have hpair : (n, e.source) ∈ Resolution.matchingPairs (c.entries.map Config.Entry.source)
        (ofProgram c p).seedNodes :=
      (Resolution.mem_matchingPairs _ _ _).2
        ⟨(mem_seedNodes c p hg n).2 ⟨hn, hconsidered⟩, List.mem_map_of_mem he, hmatch⟩
    have hresolvable := (hall (n, e.source) hpair).2 arg harg
    exact (Resolution.isResolvable_iff_not_lacksArgument n (hg.id_range n hn).1 arg).1 hresolvable
      hlacks
  · rintro hbad ⟨n, s⟩ hx
    rcases (Resolution.mem_matchingPairs _ _ _).1 hx with ⟨hseed, hs, hmatch⟩
    rcases (mem_seedNodes c p hg n).1 hseed with ⟨hn, hconsidered⟩
    rcases List.mem_map.1 hs with ⟨e, he, rfl⟩
    refine ⟨e.source_kind, fun arg harg => ?_⟩
    rw [Resolution.isResolvable_iff_not_lacksArgument n (hg.id_range n hn).1]
    exact fun hlacks => hbad ⟨n, hn, hconsidered, e, he, hmatch, arg, harg, hlacks⟩

/-! ## Whole runs -/

/-- The outcome of a run whose configuration has the given sources and whose builder gives the
    given result. -/
def conclusion (c : Config) (sources : List Source) : Except Build.Failure Program → Outcome
  | .error e => .noCallGraph e
  | .ok p =>
    match ((ofProgram c p).seed sources).result with
    | .error e => .stopped ((ofProgram c p).seed sources).session e
    | .ok (f, _) => .seeded ((ofProgram c p).seed sources).session f

section Runs

variable {M : Type → Type} [Monad M]

/-- If the configuration has no sources, nothing is built. -/
theorem run_eq_pure (now : M Nat) (c : Config) (e : Source.UnknownKind)
    (hc : Source.ofConfig c = .error e) (build : M Build) :
    run now c build = pure ⟨.unknownKind e, []⟩ := by
  unfold run
  rw [hc]

variable [LawfulMonad M]

/-- If the builder gives one result whatever happens, the run has one outcome. The clock and the
    builder only make the log. -/
theorem run_eq_conclusion (now : M Nat) (c : Config) (sources : List Source)
    (hc : Source.ofConfig c = .ok sources) (result : Except Build.Failure Program)
    (act : M (List Log.Entry)) :
    ∃ log : M (List Log.Entry), run now c ((fun l => ⟨result, l⟩) <$> act)
      = (fun l => ⟨conclusion c sources result, l⟩) <$> log := by
  unfold run start conclusion
  rw [hc]
  -- In each case the log is what the run does, with the entries in the place of the outcome.
  cases result with
  | error e =>
      refine ⟨do let _ ← now; let l ← act; let _ ← now; pure l, ?_⟩
      simp only [built, map_eq_pure_bind, bind_assoc, pure_bind]
  | ok p =>
      simp only [built, map_eq_pure_bind, bind_assoc, pure_bind]
      cases hr : ((ofProgram c p).seed sources).result with
      | error e =>
          refine ⟨do
            let before ← now
            let l ← act
            let after ← now
            let _ ← now
            pure (l ++ warningLog c p ++ startLog (after - before) (ofProgram c p) ++
              ((ofProgram c p).seed sources).log), ?_⟩
          simp only [bind_assoc, pure_bind]
      | ok found =>
          rcases found with ⟨f, count⟩
          refine ⟨do
            let before ← now
            let l ← act
            let after ← now
            let before' ← now
            let after' ← now
            pure (l ++ warningLog c p ++ startLog (after - before) (ofProgram c p) ++
              ((ofProgram c p).seed sources).log ++ seedLog c.policy (after' - before') f count), ?_⟩
          simp only [bind_assoc, pure_bind]

end Runs

/-- The outcome that belongs to a configuration and a program, or to why there is no program. The
    first of these that applies: a kind is not known, the model is refused, an argument is bad,
    there are facts. -/
structure EndsAs (c : Config) (program : Except Model.Invalid Program) (o : Outcome) : Prop where
  unimplemented : c.HasUnknownKind → o.FailsFor .unimplementedSpec ∧ o.session? = none
  noCallGraph : ¬ c.HasUnknownKind → ∀ e, program = .error e →
    o.FailsFor .noCallGraph ∧ o.session? = none
  badArgument : ¬ c.HasUnknownKind → ∀ p, program = .ok p → p.HasBadArgument c →
    o.FailsFor .badArgument ∧ ∃ closer, o.session? = some { ofProgram c p with closer := closer }
  seeded : ¬ c.HasUnknownKind → ∀ p, program = .ok p → ¬ p.HasBadArgument c →
    ∃ s f, o.result = .ok (s, f) ∧ o.session? = some s ∧
      ∃ closer, s = { ofProgram c p with closer := closer }

/-- If all kinds are known, a program without bad arguments gives facts and one with bad arguments
    stops the run, for that reason. -/
theorem conclusion_endsAs_of_program (c : Config) (p : Program) (hg : p.graph.WellFormed)
    (hc : ¬ c.HasUnknownKind) :
    EndsAs c (.ok p) (conclusion c (c.entries.map Config.Entry.source) (.ok p)) := by
  have hiff := seedUnaided_isOk_iff_arguments c p hg
  rcases seed_unaided (ofProgram c p) (Closer.fresh_remembers _)
    (c.entries.map Config.Entry.source) with ⟨hresult, closer, hsession, _⟩
  rw [← hresult] at hiff
  simp only [conclusion]
  cases hr : ((ofProgram c p).seed (c.entries.map Config.Entry.source)).result with
  | error stop =>
      have hbad : p.HasBadArgument c := by
        by_contra hgood
        rcases hiff.2 hgood with ⟨f, count, hok⟩
        rw [hr] at hok
        cases hok
      -- The sources are inputs and binders, so the arguments are all that is left to fail.
      have hchain : (Failure.stopped stop).chain = [.badArgument] := by
        refine seed_failure _ _ (fun x hx => ?_) stop hr
        rcases List.mem_map.1 hx with ⟨e, _, rfl⟩
        exact e.source_kind
      refine ⟨fun h => absurd h hc, fun _ e he => ?_, fun _ p' hp _ => ?_,
        fun _ p' hp hgood => ?_⟩
      · cases he
      · cases hp
        exact ⟨⟨_, rfl, hchain⟩, closer, congrArg some hsession⟩
      · cases hp
        exact absurd hbad hgood
  | ok found =>
      rcases found with ⟨f, count⟩
      have hgood : ¬ p.HasBadArgument c := hiff.1 ⟨f, count, hr⟩
      refine ⟨fun h => absurd h hc, fun _ e he => ?_, fun _ p' hp hbad => ?_,
        fun _ p' hp _ => ?_⟩
      · cases he
      · cases hp
        exact absurd hbad hgood
      · cases hp
        exact ⟨_, f, rfl, rfl, closer, hsession⟩

theorem conclusion_endsAs_of_refusal (c : Config) (e : Model.Invalid) (reason : String)
    (hc : ¬ c.HasUnknownKind) (sources : List Source) :
    EndsAs c (.error e) (conclusion c sources (.error (.failed reason))) := by
  refine ⟨fun h => absurd h hc, fun _ _ _ => ?_, fun _ p hp => ?_, fun _ p hp => ?_⟩
  · exact ⟨⟨_, rfl, rfl⟩, rfl⟩
  · cases hp
  · cases hp

/-- A run on a model ends as its configuration and the model say, whatever the clock shows and
    the builder does. If a kind is not known, no builder is run at all. And once a configuration
    has given sources, no session fails to resolve them for a kind that is not known. -/
theorem run_ends {M : Type → Type} [Monad M] [LawfulMonad M] (now : M Nat) (c : Config)
    (m : Model) (describe : Model.Invalid → String) (act : M (List Log.Entry)) :
    (∃ (o : Outcome) (log : M (List Log.Entry)),
      run now c (m.builder describe act) = (fun l => ⟨o, l⟩) <$> log ∧
      EndsAs c m.program o ∧
      (c.HasUnknownKind → ∀ build : M Build, run now c build = pure ⟨o, []⟩)) ∧
    ∀ sources, Source.ofConfig c = .ok sources → ∀ (s : Session) (e : Resolution.Stopped),
      (s.seed sources).result = .error e → (Failure.stopped e).chain = [.badArgument] := by
  refine ⟨?_, fun sources hc s e he =>
    seed_failure s sources (Source.kind_of_mem_ofConfig c sources hc) e he⟩
  by_cases hunknown : c.HasUnknownKind
  · rcases Source.ofEntries_eq_error c.entries hunknown with ⟨e, he⟩
    refine ⟨.unknownKind e, pure [], ?_, ?_, fun _ build => run_eq_pure now c e he build⟩
    · rw [run_eq_pure now c e he, map_pure]
    · exact ⟨fun _ => ⟨⟨_, rfl, rfl⟩, rfl⟩, fun h => absurd hunknown h,
        fun h => absurd hunknown h, fun h => absurd hunknown h⟩
  · rcases run_eq_conclusion now c _ (Source.ofConfig_eq_ok c hunknown)
      (m.program.mapError (fun e => .failed (describe e))) act with ⟨log, hlog⟩
    refine ⟨_, log, hlog, ?_, fun h => absurd h hunknown⟩
    cases hm : m.program with
    | error e => exact conclusion_endsAs_of_refusal c e (describe e) hunknown _
    | ok p =>
        have hg : p.graph.WellFormed :=
          Graph.built_wellFormed p.graph (m.program_graph_built p hm)
        exact conclusion_endsAs_of_program c p hg hunknown

/-- A clock that goes on by one whenever it is looked at. -/
def tick : StateM Nat Nat := fun t => (t, t + 1)

/-- A binder on the application methods of the sample model, with one argument too many. -/
def receiverConfig : Config :=
  { Config.usual with entries := [⟨.plain "app" "Rec.*" "" "", [1, 2], "Binder"⟩] }

/-- On the sample model the second argument is not there. The run says so, with a session but
    without facts, while the clock goes on. -/
theorem run_ends_receiver :
    ∃ (o : Outcome) (log : StateM Nat (List Log.Entry)) (s : Session),
      run tick receiverConfig (Model.receiver.builder Model.Invalid.message (pure []))
        = (fun l => ⟨o, l⟩) <$> log ∧
      o.FailsFor .badArgument ∧ o.session? = some s := by
  have hknown : ¬ receiverConfig.HasUnknownKind := by
    rintro ⟨e, he, hunknown⟩
    rw [List.mem_singleton.1 he] at hunknown
    exact absurd hunknown (by decide +kernel)
  have hbad : Model.receiver.program.toOption.any
      (fun p => decide (p.HasBadArgument receiverConfig)) = true := by decide +kernel
  rcases (run_ends tick receiverConfig Model.receiver Model.Invalid.message (pure [])).1 with
    ⟨o, log, hrun, hends, _⟩
  cases hp : Model.receiver.program with
  | error e =>
      rw [hp] at hbad
      cases hbad
  | ok p =>
      rw [hp] at hbad
      rcases hends.badArgument hknown p hp (of_decide_eq_true hbad) with ⟨hfails, closer, hsession⟩
      exact ⟨o, log, _, hrun, hfails, hsession⟩

end Session

end TaintSeed
