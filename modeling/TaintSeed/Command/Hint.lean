import TaintSeed.Regex.Program

/-!
# Hints

For some errors there is advice on what to do. It is chosen by the wording of
the error.

## Main definitions

* `Hint.forMessage`: The advice for an error, empty if there is none.
-/

namespace TaintSeed.Command.Hint

/-- Whether a regular expression has a match in a text. -/
def occurs (expression text : String) : Bool :=
  (Regex.compile? expression).any (fun program => program.matches text)

/-- The advice for an error. -/
def forMessage (message : String) : String :=
  if occurs "could not load program" message then
    if occurs "-: named files must be .go files: -(\\w)" message then
      "all command line flags should be before the path to the Go files to analyze"
    else "make sure you have provided the right arguments for an analyzer to load a Go program"
  else if occurs "invalid model|could not (read|unmarshal) model" message then
    "check the classes, nodes, edges and points-to sections of the program model"
  else if occurs "unimplemented specification" message then
    "the kind of a source specification should be \x22input\x22 or \x22binder\x22"
  else ""

end TaintSeed.Command.Hint
