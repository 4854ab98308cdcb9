import TaintSeed.Regex.CharSet

/-!
# Regular Expressions

The form of a regular expression after it has been read. Groups are gone: they
only decide what belongs together. Whether a repetition prefers more or fewer
rounds is gone too, because the only question that is asked here is whether a
text has a match at all.

## Main definitions

* `Regex`: A regular expression.
* `Regex.Anchor`: A condition on a place in a text.
* `Regex.repeatFits`: The bound on nested repetitions.
-/

namespace TaintSeed

/-- A condition on a place between two characters of a text. -/
inductive Regex.Anchor where
  /-- The beginning of the text. -/
  | textStart
  /-- The end of the text. -/
  | textEnd
  /-- The beginning of a line. -/
  | lineStart
  /-- The end of a line. -/
  | lineEnd
  /-- A place between a word character and something else. -/
  | wordBoundary
  /-- A place that is no word boundary. -/
  | noWordBoundary
deriving DecidableEq, Inhabited

/-- A regular expression. -/
inductive Regex where
  /-- The empty text. -/
  | empty
  /-- One character of a set. -/
  | one (s : CharSet)
  /-- The empty text at certain places. -/
  | anchor (a : Regex.Anchor)
  /-- One text behind another. -/
  | seq (r s : Regex)
  /-- One text or another. -/
  | alt (r s : Regex)
  /-- Any number of rounds. -/
  | star (r : Regex)
  /-- At least one round. -/
  | plus (r : Regex)
  /-- One round or none. -/
  | optional (r : Regex)
  /-- A number of rounds between two bounds, the upper one perhaps missing. -/
  | rounds (r : Regex) (least : Nat) (most : Option Nat)
deriving DecidableEq, Inhabited

namespace Regex

/-- Whether no path into the expression multiplies its numbers of rounds beyond `bound`. -/
def repeatFits (bound : Nat) : Regex → Bool
  | .empty => true
  | .one _ => true
  | .anchor _ => true
  | .seq r s => r.repeatFits bound && s.repeatFits bound
  | .alt r s => r.repeatFits bound && s.repeatFits bound
  | .star r => r.repeatFits bound
  | .plus r => r.repeatFits bound
  | .optional r => r.repeatFits bound
  | .rounds r least most =>
    let m := most.getD least
    if most = some 0 then true
    else if bound < m then false
    else r.repeatFits (if 0 < m then bound / m else bound)

end Regex

end TaintSeed
