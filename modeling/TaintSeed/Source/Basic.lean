import TaintSeed.CallGraph.Node
import TaintSeed.Pattern
import TaintSeed.Sentinel
import TaintSeed.Text.Keyword

/-!
# Sources

A source says where taint enters a program: through some of the arguments of
the methods that a pattern names. The kind says how. Of an input the argument
itself is tainted, of a binder the objects that can be reached from it are.

## Main definitions

* `SourceKind`: The two kinds of sources.
* `SourceKind.ofName`: The kind that a word of a configuration stands for.
* `Source`: A pattern, positions of arguments, and a kind.
-/

namespace TaintSeed

/-- How taint enters through an argument. -/
inductive SourceKind where
  /-- The argument itself is tainted. -/
  | input
  /-- The objects that can be reached from the argument are tainted. -/
  | binder
  /-- A number that stands for no kind. -/
  | other (code : Int)
deriving DecidableEq, Inhabited

namespace SourceKind

/-- The word for a kind. -/
def text : SourceKind → String
  | .input => "input"
  | .binder => "binder"
  | .other code => "SourceKind(" ++ toString code ++ ")"

/-- A word that stands for no kind. -/
structure Unknown where
  /-- The word. -/
  name : String
deriving DecidableEq

/-- The wording of the failure. -/
def Unknown.message (e : Unknown) : String :=
  Sentinel.unimplementedSpec.text ++ ": unknown source kind " ++ Text.Quoted.quote e.name

/-- What the failure holds on to. -/
def Unknown.chain (_ : Unknown) : List Sentinel := [.unimplementedSpec]

/-- The kind that a word stands for, in upper or lower case. -/
def ofName (name : String) : Except Unknown SourceKind :=
  let word := Text.Keyword.lower name
  if word = "input" then .ok .input
  else if word = "binder" then .ok .binder
  else .error ⟨name⟩

end SourceKind

/-- Arguments of methods through which taint enters. -/
structure Source where
  /-- Names the methods. -/
  pattern : Pattern
  /-- The positions of the arguments. -/
  args : List Int
  /-- How taint enters. -/
  kind : SourceKind
deriving Inhabited

namespace Source

/-- Numbers between brackets, with blanks between them. -/
def numbers (ns : List Int) : String := "[" ++ " ".intercalate (ns.map toString) ++ "]"

/-- The text of a source. -/
def text (s : Source) : String :=
  s.kind.text ++ " source " ++ s.pattern.text ++ " args " ++ numbers s.args

/-- Whether the source names the method of a node. -/
def «matches» (s : Source) (n : Node) : Bool := s.pattern.matches n.method

end Source

end TaintSeed
