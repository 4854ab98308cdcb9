import TaintSeed.CallGraph.Graph
import TaintSeed.Heap.Closure
import TaintSeed.Log
import TaintSeed.Sentinel

/-!
# Programs

What the analysis is given: the call graph of a program, and what other
analyses know about its objects. A builder makes it from something else, for
instance from a file, and may fail.

## Main definitions

* `Program`: A call graph with what is known about objects.
* `Build`: What a builder gives, with what it has printed.
-/

namespace TaintSeed

/-- A program. -/
structure Program where
  /-- The call graph. -/
  graph : Graph
  /-- What local values and fields may refer to, if that is known. -/
  pointsTo? : Option PointsTo.Oracle
  /-- The classes, if they are known. -/
  hierarchy? : Option Hierarchy
  /-- What the builder warns about. -/
  warnings : List String
deriving Inhabited

/-- What is known about the objects of a program, for a policy. -/
def Program.heap (p : Program) (policy : Log.Policy) : Heap :=
  ⟨p.pointsTo?.getD .silent, p.hierarchy?.getD default, policy⟩

/-- Why there is no call graph. -/
inductive Build.Failure where
  /-- The builder failed. -/
  | failed (reason : String)
  /-- The builder gave a program without a call graph. -/
  | noGraph
deriving DecidableEq

/-- The wording of the failure. -/
def Build.Failure.message : Build.Failure → String
  | .failed reason => Sentinel.noCallGraph.text ++ ": " ++ reason
  | .noGraph => Sentinel.noCallGraph.text ++ ": the builder returned no call graph"

/-- What the failure holds on to. Of what the builder says only the wording is known. -/
def Build.Failure.chain (_ : Build.Failure) : List Sentinel := [.noCallGraph]

/-- What a builder gives. -/
structure Build where
  /-- The program, or why there is none. -/
  result : Except Build.Failure Program
  /-- What the builder has printed. -/
  log : List Log.Entry

end TaintSeed
