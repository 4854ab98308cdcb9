/-!
# Operands

A list of values is printed by writing them one behind the other, with a blank
between two neighbours neither of which is a text. Texts bring their own
blanks, numbers and truth values do not.

## Main definitions

* `Operand`: A value that can be printed.
* `Operand.joined`: The text of a list of values.
-/

namespace TaintSeed.Text

/-- A value in a list of values to be printed. -/
inductive Operand where
  /-- A text, printed as it is. -/
  | text (s : String)
  /-- A number. -/
  | number (n : Int)
  /-- A truth value. -/
  | truth (b : Bool)
  /-- The absence of a value. -/
  | nothing
deriving DecidableEq, Inhabited

namespace Operand

/-- Whether the value is a text. -/
def isText : Operand → Bool
  | .text _ => true
  | _ => false

/-- The text of one value. -/
def render : Operand → String
  | .text s => s
  | .number n => toString n
  | .truth b => if b then "true" else "false"
  | .nothing => "<nil>"

/-- The values that follow `last`, with the blanks that belong between them. -/
def renderAfter (last : Operand) : List Operand → String
  | [] => ""
  | x :: xs =>
    (if last.isText || x.isText then "" else " ") ++ x.render ++ renderAfter x xs

/-- The values one behind the other, with a blank between two that are not texts. -/
def joined : List Operand → String
  | [] => ""
  | x :: xs => x.render ++ renderAfter x xs

end Operand

end TaintSeed.Text
