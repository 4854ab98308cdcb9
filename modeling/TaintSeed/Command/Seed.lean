import TaintSeed.Command.Report

/-!
# The Command for Facts

Builds the call graph of a program, resolves the sources of the configuration,
and prints the facts, or only how many there are at each point.

## Main definitions

* `Seed`: What the command is told.
* `Seed.parse`: Reads it from arguments.
* `Seed.run`: Runs the command.
-/

namespace TaintSeed.Command

/-- What the command is told. -/
structure Seed where
  /-- What all commands can be told. -/
  options : Options
  /-- Whether only numbers are printed. -/
  isSummary : Bool
deriving DecidableEq, Inhabited

namespace Seed

/-- The description of the command. -/
def description : String :=
  " Seed the taint facts of the source specifications.\n" ++
    "Usage:\n" ++
    "  argot seed [options] [package path(s)]\n" ++
    "Examples:\n" ++
    "  % argot seed -config config.yaml -model program.yaml\n" ++
    "  % argot seed -config config.yaml -go -mode cha package...\n"

/-- The flags of the command. -/
def flags : List Flag :=
  Options.flags ++
    [Flags.switch "summary" "only print the number of facts per program point"]

/-- The description of the command with its flags. -/
def usage : String := Flags.usage description flags

/-- What arguments tell the command. -/
def parse (arguments : List String) : Except Flags.Stop Seed :=
  (Flags.parse flags arguments).map
    (fun r => ⟨Options.ofFlags r.1 r.2, Flags.isOn r.1 "summary"⟩)

/-- The number of facts at a point. -/
def countAt (f : Facts) (p : ProgramPoint) : Nat :=
  ((f.flowsAt p).map (fun t => (f.elementsAt p t).size)).foldr (· + ·) 0

/-- The line of a point, with the number of its facts. -/
def summaryLine (f : Facts) (p : ProgramPoint) : String :=
  "  " ++ p.text ++ ": " ++ toString (countAt f p) ++ "\n"

/-- The line with the sizes of the views. -/
def viewsLine (s : Slices) : String :=
  "Views: application: " ++ toString s.application.length ++ ", one-hop: " ++
    toString s.oneHop.length ++ ", boundary: " ++ toString s.boundary.length ++ " nodes\n"

/-- The printed facts. -/
def factsText (isSummary : Bool) (f : Facts) : String :=
  if f.size = 0 then "No taint facts seeded\n"
  else
    "Seeded " ++ toString f.size ++ " facts at " ++ toString f.points.length ++
      " program points\n" ++
      if isSummary then String.join (f.points.map (summaryLine f)) else f.report

/-- What is printed at the end, if there are facts. -/
def closingLog (policy : Log.Policy) (elapsed : Nat) (f : Facts) : List Log.Entry :=
  if f.size = 0 then []
  else
    policy.info (String.ofList (List.replicate 80 '*')) ++
      policy.info ("Seeding took " ++ Session.seconds 4 elapsed ++ " s")

/-- Runs the command. -/
def run {m : Type → Type} [Monad m] (host : Host m) (s : Seed) : m Report :=
  Report.withProgram host s.options fun c build => do
    let begun := c.policy.info ("Argot seed tool - " ++ version)
    if c.options.testBuilder then
      let r ← Session.test c build
      pure ⟨r.value, "", (begun ++ r.log).map Log.Entry.line, none⟩
    else
      let before ← host.now
      let r ← Session.run host.now c build
      let after ← host.now
      match r.value.result with
      | .error e => pure ⟨1, "", (begun ++ r.log).map Log.Entry.line, some (.noFacts e)⟩
      | .ok (session, facts) =>
        pure
          ⟨0, viewsLine session.slices ++ factsText s.isSummary facts,
            (begun ++ r.log ++ closingLog c.policy (after - before) facts).map Log.Entry.line, none⟩

end Seed

end TaintSeed.Command
