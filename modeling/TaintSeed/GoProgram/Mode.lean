import TaintSeed.Text.Keyword
import TaintSeed.Text.Quoted

/-!
# Call Graph Modes

How the calls of a Go program are followed. In the static mode only a call
whose target is known leads anywhere. In the class hierarchy mode a call of a
method of an interface leads to every method that can be meant, and a call of a
function value to every function of the same signature.

## Main definitions

* `GoProgram.Mode`: The two modes.
* `GoProgram.Mode.ofName`: The mode of a name.
* `GoProgram.Mode.ofCode`: The mode of a number.
-/

namespace TaintSeed.GoProgram

/-- How calls are followed. -/
inductive Mode where
  /-- Calls lead where their target is known. -/
  | static
  /-- Calls lead wherever their target can be. -/
  | classHierarchy
deriving DecidableEq, Inhabited

namespace Mode

/-- The number of a mode. -/
def code : Mode → Nat
  | .static => 0
  | .classHierarchy => 1

/-- A mode that is not known. -/
inductive Unsupported where
  /-- No mode has the name. -/
  | name (s : String)
  /-- No mode has the number. -/
  | code (n : Nat)
deriving DecidableEq

/-- The wording of the failure. -/
def Unsupported.message : Unsupported → String
  | .name s => "unsupported call graph analysis mode " ++ Text.Quoted.quote s
  | .code n => "unsupported call graph analysis mode " ++ toString n

/-- The mode of a name, in whichever case it is written. Without a name it is the static one. -/
def ofName (s : String) : Except Unsupported Mode :=
  let name := Text.Keyword.lower s
  if name = "static" || name = "" then .ok .static
  else if name = "cha" then .ok .classHierarchy
  else .error (.name s)

end Mode

end TaintSeed.GoProgram
