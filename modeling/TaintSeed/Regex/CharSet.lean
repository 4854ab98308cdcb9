import TaintSeed.Text.CaseFold
import TaintSeed.Text.Category
import TaintSeed.Text.Script

/-!
# Sets of Characters

What one position of a text may be, in a regular expression: a range of code
points, the characters of a Unicode category or script, and what can be made
of these by union, by complement and by disregarding case.

Sets are over code points rather than characters, because an expression may
name a code point that is no character; no text has it.

## Main definitions

* `CharSet`: A set of code points.
* `CharSet.contains`: Membership.
* `CharSet.posix?`: The sets with a name of their own, such as `alpha`.
* `CharSet.perl?`: The sets with a letter, such as `\d`.
* `CharSet.property?`: The sets of a category or script.
-/

namespace TaintSeed

/-- A set of code points. -/
inductive CharSet where
  /-- The code points in one of the ranges, ends included. -/
  | ranges (rs : List (Nat × Nat))
  /-- The code points of these categories. -/
  | categories (codes : List String)
  /-- The code points that are not in the set. -/
  | compl (s : CharSet)
  /-- The code points that are in one of two sets. -/
  | union (s t : CharSet)
  /-- The code points that are in the set up to case. -/
  | folded (s : CharSet)
deriving DecidableEq, Inhabited

namespace CharSet

/-- Whether a code point is in the set. -/
def contains : CharSet → Nat → Bool
  | .ranges rs, c => rs.any (fun r => r.1 ≤ c && c ≤ r.2)
  | .categories codes, c => codes.contains (Text.Category.of c)
  | .compl s, c => !s.contains c
  | .union s t, c => s.contains c || t.contains c
  | .folded s, c => (Text.CaseFold.mates c).any s.contains

/-- Ranges in order, where those that meet are one. -/
def joined (rs : List (Nat × Nat)) : List (Nat × Nat) :=
  (rs.mergeSort (fun a b => decide (a.1 ≤ b.1))).foldr meet []
where
  /-- Puts a range before those that begin no earlier, and takes in the ones that it reaches. -/
  meet (r : Nat × Nat) : List (Nat × Nat) → List (Nat × Nat)
    | [] => [r]
    | s :: rest => if s.1 ≤ r.2 + 1 then meet (r.1, max r.2 s.2) rest else r :: s :: rest

/-- The code points from `low` on that are in none of the ranges, which are in order. -/
def gaps (low : Nat) : List (Nat × Nat) → List (Nat × Nat)
  | [] => if low ≤ 0x10FFFF then [(low, 0x10FFFF)] else []
  | r :: rs => if low < r.1 then (low, r.1 - 1) :: gaps (r.2 + 1) rs else gaps (r.2 + 1) rs

/-- The code points in the ranges. -/
def points (rs : List (Nat × Nat)) : List Nat :=
  rs.flatMap (fun r => (List.range (r.2 + 1 - r.1)).map (r.1 + ·))

/-- The set as ranges in order. A set up to case is only written out if it is made of few code
    points. -/
def explicit? : CharSet → Option (List (Nat × Nat))
  | .ranges rs => some (joined rs)
  | .categories codes =>
    some (joined ((Text.Category.runs.filter (fun r => codes.contains r.code)).map
      (fun r => (r.first, r.last))))
  | .compl s => s.explicit?.map (gaps 0)
  | .union s t =>
    match s.explicit?, t.explicit? with
    | some rs, some qs => some (joined (rs ++ qs))
    | _, _ => Option.none
  | .folded s =>
    match s.explicit? with
    | some rs =>
      if (rs.map (fun r => r.2 + 1 - r.1)).foldr (· + ·) 0 ≤ 1000 then
        some (joined (((points rs).flatMap Text.CaseFold.mates).map (fun c => (c, c))))
      else Option.none
    | Option.none => Option.none

/-- Whether two sets are written as the same ranges, or in the same way. -/
def isSame (s t : CharSet) : Bool :=
  s == t ||
    match s.explicit?, t.explicit? with
    | some rs, some qs => rs == qs
    | _, _ => false

/-- The set of one code point. -/
def single (c : Nat) : CharSet := .ranges [(c, c)]

/-- The set of no code point. -/
def none : CharSet := .ranges []

/-- The set of all code points. -/
def all : CharSet := .ranges [(0, 0x10FFFF)]

/-- The set of all code points but the line feed. -/
def notNewline : CharSet := .compl (single 10)

/-- The set, or its complement. -/
def signed (positive : Bool) (s : CharSet) : CharSet := if positive then s else .compl s

/-- The set, closed under case where case is disregarded. -/
def foldedIf (fold : Bool) (s : CharSet) : CharSet := if fold then .folded s else s

/-- The ASCII digits. -/
def digits : List (Nat × Nat) := [(48, 57)]

/-- The ASCII letters, digits and the underscore. -/
def wordChars : List (Nat × Nat) := [(48, 57), (65, 90), (95, 95), (97, 122)]

/-- The sets with a name, by name. -/
def posixSets : List (String × List (Nat × Nat)) :=
  [("alnum", [(48, 57), (65, 90), (97, 122)]),
   ("alpha", [(65, 90), (97, 122)]),
   ("ascii", [(0, 127)]),
   ("blank", [(9, 9), (32, 32)]),
   ("cntrl", [(0, 31), (127, 127)]),
   ("digit", digits),
   ("graph", [(33, 126)]),
   ("lower", [(97, 122)]),
   ("print", [(32, 126)]),
   ("punct", [(33, 47), (58, 64), (91, 96), (123, 126)]),
   ("space", [(9, 13), (32, 32)]),
   ("upper", [(65, 90)]),
   ("word", wordChars),
   ("xdigit", [(48, 57), (65, 70), (97, 102)])]

/-- The set of a name, or its complement if a caret stands before the name. -/
def posix? (fold : Bool) (name : List Char) : Option CharSet :=
  let (positive, name) :=
    match name with
    | '^' :: rest => (false, rest)
    | _ => (true, name)
  (posixSets.find? (fun e => e.1.toList == name)).map
    (fun e => signed positive (foldedIf fold (.ranges e.2)))

/-- The set of a letter: digits, blanks, word characters, or in upper case the others. -/
def perl? (fold : Bool) (letter : Char) : Option CharSet :=
  let set (positive : Bool) (rs : List (Nat × Nat)) :=
    some (signed positive (foldedIf fold (.ranges rs)))
  let blanks := [(9, 10), (12, 13), (32, 32)]
  match letter with
  | 'd' => set true digits
  | 'D' => set false digits
  | 's' => set true blanks
  | 'S' => set false blanks
  | 'w' => set true wordChars
  | 'W' => set false wordChars
  | _ => Option.none

/-- The sets with a name that are neither a category nor a script. -/
def namedSets : List (String × CharSet) :=
  [("Any", all), ("ASCII", .ranges [(0, 127)]), ("Assigned", .compl (.categories ["Cn"]))]

/-- The set of a category or script, by name. -/
def named? (name : String) : Option CharSet :=
  (Text.PropertyName.find? namedSets name).orElse fun _ =>
    ((Text.Category.codes? name).map .categories).orElse fun _ =>
      (Text.Script.ranges? name).map .ranges

/-- The set of a category or script, or its complement; a caret before the name turns the set
    around once more. -/
def property? (fold positive : Bool) (name : List Char) : Option CharSet :=
  let (positive, name) :=
    match name with
    | '^' :: rest => (!positive, rest)
    | _ => (positive, name)
  (named? (String.ofList name)).map (fun s => signed positive (foldedIf fold s))

end CharSet

end TaintSeed
