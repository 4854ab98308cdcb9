/-!
# Sentinels

The failures by which other failures are recognised. Where something fails
because something else has failed, its message tells about that, and it may
also hold on to it. What it holds on to is its chain, from the outermost
sentinel to the innermost. Whoever gets the failure looks for a sentinel in the
chain and does not read the message.

A failure that is told about but not held on to is no part of the chain: an
argument that is no local value is a bad argument, and nothing more.

## Main definitions

* `Sentinel`: What a failure can be recognised by.
* `Sentinel.text`: The words for it in messages.
-/

namespace TaintSeed

/-- What a failure can be recognised by. -/
inductive Sentinel where
  /-- Sources of some kind are not implemented. -/
  | unimplementedSpec
  /-- A source has an argument that is not there. -/
  | badArgument
  /-- There is no call graph. -/
  | noCallGraph
deriving DecidableEq

/-- The words for a sentinel. -/
def Sentinel.text : Sentinel → String
  | .unimplementedSpec => "unimplemented specification"
  | .badArgument => "bad specification argument"
  | .noCallGraph => "call graph construction failed"

end TaintSeed
