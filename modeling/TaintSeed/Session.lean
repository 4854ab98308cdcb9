import TaintSeed.Program
import TaintSeed.Source.OfConfig
import TaintSeed.Source.Resolve
import TaintSeed.View.Slices

/-!
# Sessions

A run of the analysis. The call graph is built and cut into slices, and then
the sources of the configuration are resolved on the nodes of the application,
or on all nodes if the configuration says so. The facts are what an analysis of
the flow of data starts from.

A run ends in one of four ways, in this order: a source has a kind that is not
known, and nothing is built; there is no call graph; a source cannot be
resolved; or there are facts. So there are never facts beside an error.

Building may read files and takes time, so a run works in any monad that can
build and that has a clock. Nothing but durations in the log depends on the
clock.

## Main definitions

* `Session`: A program that is ready for its sources.
* `Session.start`: Builds a program and makes it ready.
* `Session.seed`: Resolves sources.
* `Session.Outcome`: The four ways a run ends.
* `Session.run`: A whole run.
-/

namespace TaintSeed

/-- A program that is ready for its sources. -/
structure Session where
  /-- The configuration. -/
  config : Config
  /-- The call graph. -/
  graph : Graph
  /-- What is known about objects. -/
  heap : Heap
  /-- The parts of the call graph. -/
  slices : Slices
  /-- The closures that are remembered. -/
  closer : Closer

namespace Session

/-- A time in seconds with a number of decimal places, given in nanoseconds. -/
def seconds (places : Nat) (nanoseconds : Nat) : String :=
  let units := nanoseconds * Nat.pow 10 places / Nat.pow 10 9
  let digits := toString (units % Nat.pow 10 places)
  toString (units / Nat.pow 10 places) ++ "." ++
    String.ofList (List.replicate (places - digits.length) '0') ++ digits

/-- The warnings of a builder, if they are passed on. -/
def warningLog (c : Config) (p : Program) : List Log.Entry :=
  if c.options.builderWarnings then
    p.warnings.flatMap (fun w => c.policy.warning ("call graph builder: " ++ w))
  else []

/-- The program that was built, with what was printed on the way. -/
def built (c : Config) (b : Build) : Logged (Except Build.Failure Program) :=
  match b.result with
  | .error e => ⟨.error e, b.log⟩
  | .ok p => ⟨.ok p, b.log ++ warningLog c p⟩

/-- The call graph, for the log. -/
def graphLog (c : Config) (g : Graph) : List Log.Entry :=
  if c.options.showGraph then
    c.policy.info "Call graph:" ++ g.nodes.flatMap (fun n =>
      c.policy.info n.text ++ (g.succs n).flatMap (fun m => c.policy.info ("  - " ++ m.text)))
  else []

/-- The synthetic methods, for the log. They are put together only if traces are printed. -/
def syntheticLog (c : Config) (g : Graph) : List Log.Entry :=
  if c.policy.reaches .trace then
    (g.nodes.filter Node.isSynthetic).flatMap
      (fun n => c.policy.trace ("Synthetic: " ++ n.method.text))
  else []

/-- The sizes of the slices, for the log. -/
def sliceLog (c : Config) (s : Slices) : List Log.Entry :=
  c.policy.info ("Application view: " ++ toString s.application.length ++
    " nodes, one-hop view: " ++ toString s.oneHop.length ++ " nodes, boundary view: " ++
    toString s.boundary.length ++ " nodes")

/-- Makes a program ready. -/
def ofProgram (c : Config) (p : Program) : Session :=
  ⟨c, p.graph, p.heap c.policy, Slices.build p.graph.answers Node.isApplication, .fresh⟩

/-- What is printed when a program has been made ready; `elapsed` is how long the building
    took. -/
def startLog (elapsed : Nat) (s : Session) : List Log.Entry :=
  s.config.policy.info ("Call graph built in " ++ seconds 2 elapsed ++ " s: " ++
      toString s.graph.size ++ " nodes") ++
    graphLog s.config s.graph ++ syntheticLog s.config s.graph ++
    s.slices.log s.config.policy s.graph.answers ++ sliceLog s.config s.slices

/-- Builds a program and makes it ready. -/
def start {m : Type → Type} [Monad m] (now : m Nat) (c : Config) (build : m Build) :
    m (Logged (Except Build.Failure Session)) := do
  let before ← now
  let b ← build
  let after ← now
  match built c b with
  | ⟨.error e, log⟩ => pure ⟨.error e, log⟩
  | ⟨.ok p, log⟩ =>
    let s := ofProgram c p
    pure ⟨.ok s, log ++ startLog (after - before) s⟩

/-- The nodes on which sources are resolved. -/
def seedNodes (s : Session) : List Node :=
  if s.config.options.includeLibrary then s.graph.nodes else s.slices.application.callNodes

/-- The node of a method without a context. -/
def nodeOf? (s : Session) (m : MethodRef) : Option Node := s.graph.find? m ""

/-- What comes of resolving sources. -/
structure Seeding where
  /-- The session afterwards, which remembers more closures. -/
  session : Session
  /-- The facts and the number of resolved pairs, or why there are none. -/
  result : Except Resolution.Stopped (Facts × Nat)
  /-- What was printed. -/
  log : List Log.Entry

/-- Resolves sources, starting without facts. -/
def seed (s : Session) (sources : List Source) : Seeding :=
  let (r, count, e?) :=
    Resolution.resolveAll ⟨s.graph, s.heap⟩ sources s.seedNodes ⟨.empty, some s.closer, []⟩
  -- Closures are kept even where the resolution fails: they hold for the program, not the sources.
  let session := { s with closer := r.closer?.getD s.closer }
  match e? with
  | some e => ⟨session, .error e, r.log⟩
  | none => ⟨session, .ok (r.facts, count), r.log⟩

/-- What is printed about facts; `elapsed` is how long it took to find them. -/
def seedLog (policy : Log.Policy) (elapsed : Nat) (f : Facts) (count : Nat) : List Log.Entry :=
  policy.info ("Seeded " ++ toString f.size ++ " facts at " ++ toString f.points.length ++
    " program points from " ++ toString count ++ " matches in " ++ seconds 2 elapsed ++ " s")

/-- Why a run ends without facts. -/
inductive Failure where
  /-- The kind of a source is not known. -/
  | unknownKind (e : Source.UnknownKind)
  /-- There is no call graph. -/
  | noCallGraph (e : Build.Failure)
  /-- A source cannot be resolved. -/
  | stopped (e : Resolution.Stopped)

/-- The wording of the failure. -/
def Failure.message : Failure → String
  | .unknownKind e => e.message
  | .noCallGraph e => e.message
  | .stopped e => e.message

/-- What the failure holds on to. -/
def Failure.chain : Failure → List Sentinel
  | .unknownKind e => e.chain
  | .noCallGraph e => e.chain
  | .stopped e => e.chain

/-- How a run ends. -/
inductive Outcome where
  /-- The kind of a source is not known. -/
  | unknownKind (e : Source.UnknownKind)
  /-- There is no call graph. -/
  | noCallGraph (e : Build.Failure)
  /-- A source cannot be resolved. -/
  | stopped (s : Session) (e : Resolution.Stopped)
  /-- All sources are resolved. -/
  | seeded (s : Session) (f : Facts)

namespace Outcome

/-- The session, if there is one. -/
def session? : Outcome → Option Session
  | .unknownKind _ => none
  | .noCallGraph _ => none
  | .stopped s _ => some s
  | .seeded s _ => some s

/-- The session with the facts, or why there are none. -/
def result : Outcome → Except Failure (Session × Facts)
  | .unknownKind e => .error (.unknownKind e)
  | .noCallGraph e => .error (.noCallGraph e)
  | .stopped _ e => .error (.stopped e)
  | .seeded s f => .ok (s, f)

end Outcome

/-- A whole run. -/
def run {m : Type → Type} [Monad m] (now : m Nat) (c : Config) (build : m Build) :
    m (Logged Outcome) := do
  match Source.ofConfig c with
  -- The sources are checked first, so a wrong configuration costs no call graph.
  | .error e => pure ⟨.unknownKind e, []⟩
  | .ok sources =>
    match ← start now c build with
    | ⟨.error e, log⟩ => pure ⟨.noCallGraph e, log⟩
    | ⟨.ok s, log⟩ =>
      let before ← now
      let r := s.seed sources
      match r.result with
      | .error e => pure ⟨.stopped r.session e, log ++ r.log⟩
      | .ok (f, count) =>
        let after ← now
        pure ⟨.seeded r.session f, log ++ r.log ++ seedLog c.policy (after - before) f count⟩

/-- Builds the call graph and nothing more. Gives the status with which the program ends. -/
def test {m : Type → Type} [Monad m] (c : Config) (build : m Build) : m (Logged Nat) := do
  match built c (← build) with
  | ⟨.error e, log⟩ => pure ⟨1, log ++ c.policy.error e.message⟩
  | ⟨.ok p, log⟩ =>
    pure ⟨0, log ++ c.policy.info ("Call graph built: " ++ toString p.graph.size ++ " nodes")⟩

end Session

end TaintSeed
