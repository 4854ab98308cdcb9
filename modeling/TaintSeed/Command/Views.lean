import TaintSeed.Command.Report
import TaintSeed.View.Cycles
import TaintSeed.View.Stats

/-!
# The Command for Views

Builds the call graph of a program and prints its views: the nodes of each with
their successors in it, and, if that is wanted, some of its cycles.

## Main definitions

* `Views`: What the command is told.
* `Views.parse`: Reads it from arguments.
* `Views.run`: Runs the command.
-/

namespace TaintSeed.Command

/-- What the command is told. -/
structure Views where
  /-- What all commands can be told. -/
  options : Options
  /-- How many cycles are printed. -/
  cycles : Int
  /-- The only view that is printed; empty if all are. -/
  only : String
deriving DecidableEq, Inhabited

namespace Views

/-- The description of the command. -/
def description : String :=
  " Print the views of the call graph of a program.\n" ++
    "Usage:\n" ++
    "  argot views [options] [package path(s)]\n" ++
    "Examples:\n" ++
    "  % argot views -model program.yaml\n" ++
    "  % argot views -cycles 10 -go package...\n"

/-- The flags of the command. -/
def flags : List Flag :=
  Options.flags ++
    [Flags.number "cycles" "print at most that many elementary cycles of each view",
     Flags.text "view" "" "print only one view: application, one-hop or boundary"]

/-- The description of the command with its flags. -/
def usage : String := Flags.usage description flags

/-- What arguments tell the command, which knows only some views. -/
def parse (arguments : List String) : Except Flags.Stop (Except Failure Views) :=
  (Flags.parse flags arguments).map fun r =>
    let only := Flags.textOf r.1 "view"
    if only = "" || viewNames.contains only then
      .ok ⟨Options.ofFlags r.1 r.2, Flags.numberOf r.1 "cycles", only⟩
    else .error (.unknownView only)

/-- The lines of a node and its successors in the view. -/
def nodeText (g : Graph) (v : View) (n : Node) : String :=
  "  " ++ n.text ++ "\n" ++
    String.join (((g.succs n).filter v.contains).map (fun k => "    -> " ++ k.text ++ "\n"))

/-- The line of a cycle. -/
def cycleText (nodes : List Node) : String :=
  "  cycle: " ++ " -> ".intercalate (nodes.map (·.method.name)) ++ "\n"

/-- The lines of a view. -/
def viewText (g : Graph) (cycles : Int) (title : String) (v : View) : String :=
  title ++ " view: " ++ v.stats.text ++ "\n" ++
    String.join (v.callNodes.map (nodeText g v)) ++
    if cycles ≤ 0 then "" else String.join ((v.cycleNodes cycles).map cycleText)

/-- The views by their names, with their titles. -/
def titled (s : Slices) : List (String × String × View) :=
  [("application", "Application", s.application), ("one-hop", "One-hop", s.oneHop),
   ("boundary", "Boundary", s.boundary)]

/-- The printed views. -/
def text (o : Views) (s : Session) : String :=
  String.join (((titled s.slices).filter (fun v => o.only = "" || o.only = v.1)).map
    (fun v => viewText s.graph o.cycles v.2.1 v.2.2))

/-- Runs the command. -/
def run {m : Type → Type} [Monad m] (host : Host m) (o : Views) : m Report :=
  Report.withProgram host o.options fun c build => do
    let begun := c.policy.info ("Argot views tool - " ++ version)
    let r ← Session.start host.now c build
    match r.value with
    | .error e => pure ⟨0, "", (begun ++ r.log).map Log.Entry.line, some (.noViews e)⟩
    | .ok session => pure ⟨0, o.text session, (begun ++ r.log).map Log.Entry.line, none⟩

end Views

end TaintSeed.Command
