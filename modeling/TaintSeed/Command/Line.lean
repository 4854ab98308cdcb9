import TaintSeed.Command.Hint
import TaintSeed.Command.Seed
import TaintSeed.Command.Views

/-!
# The Command Line

The first argument names the command, the others are for the command. A command
that fails says why, and gives a hint if there is one.

## Main definitions

* `Ending`: What a run prints, and how it ends.
* `execute`: Runs the command that arguments name.
-/

namespace TaintSeed.Command

/-- What a run prints, and how it ends. -/
structure Ending where
  /-- The number with which it ends. -/
  status : Nat
  /-- What is printed as the result. -/
  output : String
  /-- What is printed beside the result. -/
  notes : String
deriving DecidableEq, Inhabited

/-- The description of the program. -/
def usage : String :=
  "Argot: Automated Reasoning Droid Tools\n" ++
    "Usage:\n" ++
    "  argot [tool] [options] [Go package path(s)]\n" ++
    "Tools:\n" ++
    "  - seed: builds the call graph and prints the taint facts seeded by the source " ++
    "specifications\n" ++
    "  - views: builds the call graph and prints the application, one-hop and boundary views\n" ++
    "Examples:\n" ++
    "  Seed a program model: argot seed -config config.yaml -model program.yaml\n" ++
    "  Seed Go packages: argot seed -config config.yaml -go ./...\n" ++
    "  Print the views of a model: argot views -config config.yaml -model program.yaml\n"

/-- What is said about a failure. -/
def complaint (e : Failure) : String :=
  let hint := Hint.forMessage e.message
  "error: " ++ e.message ++ "\n" ++ if hint = "" then "" else "Hint: " ++ hint ++ "\n"

/-- How a run ends whose flags cannot be read. -/
def Flags.Stop.ending (usage : String) (e : Flags.Stop) : Ending :=
  match e.message? with
  | none => ⟨0, "", usage⟩
  | some message => ⟨2, "", message ++ "\n" ++ usage⟩

/-- How a run ends whose command gives a report. -/
def Report.ending (r : Report) : Ending :=
  let log := String.join (r.log.map (· ++ "\n"))
  match r.failure? with
  | none => ⟨r.status, r.output, log⟩
  | some e => ⟨2, r.output, log ++ complaint e⟩

/-- Runs the command that arguments name. -/
def execute {m : Type → Type} [Monad m] (host : Host m) : List String → m Ending
  | [] => pure ⟨2, "", "error: expected subcommand\n" ++ usage⟩
  | name :: arguments =>
    if name = "-help" || name = "--help" then pure ⟨0, usage, ""⟩
    else if name = "-version" || name = "--version" then pure ⟨0, version ++ "\n", ""⟩
    else if name = "seed" then
      match Seed.parse arguments with
      | .error e => pure (e.ending Seed.usage)
      | .ok s => do pure (← s.run host).ending
    else if name = "views" then
      match Views.parse arguments with
      | .error e => pure (e.ending Views.usage)
      | .ok (.error e) => pure ⟨2, "", complaint e⟩
      | .ok (.ok v) => do pure (← v.run host).ending
    else
      pure ⟨2, "", "error: unexpected command: " ++ name ++ "\nusage:\n" ++ usage⟩

end TaintSeed.Command
