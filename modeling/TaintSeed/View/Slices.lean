import TaintSeed.Log
import TaintSeed.View.Stats

/-!
# The Three Slices

The parts of a call graph that matter to the analysis of an application inside
a platform: the application itself, the application with everything that is
one call away from it, and the boundary, where the platform calls into the
application.

## Main definitions

* `Slices`: The three parts.
* `Slices.build`: Cuts a call graph.
* `Slices.log`: What is printed about the graph and its parts.
-/

namespace TaintSeed

/-- The parts of a call graph around an application. -/
structure Slices where
  /-- The nodes of the application and the synthetic nodes. -/
  application : View
  /-- The nodes of the application, their callers and their callees. -/
  oneHop : View
  /-- The nodes outside the application that call into it, and those that they call there. -/
  boundary : View
deriving Inhabited

namespace Slices

/-- Cuts a call graph, given which nodes belong to the application. -/
def build (c : CallGraph) (isApp : Node → Bool) : Slices :=
  let whole := View.ofCallGraph c
  { application := whole.induced (fun n => isApp n || n.isSynthetic)
    oneHop := whole.induced (fun n => isApp n || (c.preds n).any isApp || (c.succs n).any isApp)
    boundary := whole.induced (fun n =>
      if isApp n then (c.preds n).any (fun p => !isApp p) else (c.succs n).any isApp) }

/-- What is printed about the graph and its parts. -/
def log (policy : Log.Policy) (c : CallGraph) (s : Slices) : List Log.Entry :=
  policy.debug ("call graph: " ++ (View.ofCallGraph c).stats.text) ++
    policy.debug ("application view: " ++ s.application.stats.text) ++
    policy.debug ("one-hop view: " ++ s.oneHop.stats.text) ++
    policy.debug ("boundary view: " ++ s.boundary.stats.text)

end Slices

end TaintSeed
