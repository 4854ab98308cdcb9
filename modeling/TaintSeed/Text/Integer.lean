/-!
# Integers as Text

An integer is written in decimal, or with `0x`, `0b` or `0o` before it in
another base; a leading zero alone means octal. Underscores may separate
digits, but two must not stand together, nor one at an end. The value must fit
into 64 bits.

## Main definitions

* `Integer.Failure`: Why a text is no integer.
* `Integer.accumulate`: The value of digits in a base.
* `Integer.parse`: The signed integer of a text.
* `Integer.parseUnsigned`: The integer of a text without a sign.
-/

namespace TaintSeed.Text.Integer

/-- Why a text is no integer. -/
inductive Failure where
  /-- The text does not have the form. -/
  | malformed
  /-- The value does not fit. -/
  | tooLarge
deriving DecidableEq

/-- The value of a digit, letters counting on from ten. -/
def digit? (c : Char) : Option Nat :=
  if c.isDigit then some (c.toNat - 48)
  else if 'a' ≤ c && c ≤ 'z' then some (c.toNat - 87)
  else if 'A' ≤ c && c ≤ 'Z' then some (c.toNat - 55)
  else none

/-- The value of digits in a base behind the value `v`, below `2 ^ 64`. -/
def accumulate (base v : Nat) : List Char → Except Failure Nat
  | [] => .ok v
  | c :: cs =>
    match digit? c with
    | none => .error .malformed
    | some d =>
      if base ≤ d then .error .malformed
      else if base * v + d < Nat.pow 2 64 then accumulate base (base * v + d) cs
      else .error .tooLarge

/-- The base of a text without sign, and its digits. -/
def baseOf : List Char → Nat × List Char
  | '0' :: x :: y :: ys =>
    if x == 'b' || x == 'B' then (2, y :: ys)
    else if x == 'o' || x == 'O' then (8, y :: ys)
    else if x == 'x' || x == 'X' then (16, y :: ys)
    else (8, x :: y :: ys)
  | '0' :: xs => (8, xs)
  | xs => (10, xs)

/-- Whether each underscore stands between digits; the sign of a base counts as one. -/
def separatorsFit (cs : List Char) : Bool :=
  let isDigit (hex : Bool) (c : Char) : Bool :=
    c.isDigit || (hex && ('a' ≤ c.toLower && c.toLower ≤ 'f'))
  let rec fits (hex : Bool) (last : Char) : List Char → Bool
    | [] => last != '_'
    | c :: cs =>
      if isDigit hex c then fits hex '0' cs
      else if c == '_' then last == '0' && fits hex '_' cs
      else last != '_' && fits hex '!' cs
  match cs with
  | '0' :: x :: xs =>
    if "bBoOxX".toList.contains x then fits (x == 'x' || x == 'X') '0' xs
    else fits false '^' cs
  | _ => fits false '^' cs

/-- The integer of a text without a sign, below `2 ^ 64`. -/
def parseUnsigned (cs : List Char) : Except Failure Nat :=
  if cs.isEmpty then .error .malformed
  else
    let (base, ds) := baseOf cs
    match accumulate base 0 (ds.filter (· != '_')) with
    | .error e => .error e
    | .ok v => if separatorsFit cs then .ok v else .error .malformed

/-- The sign of a text, and what follows it. -/
def signed : List Char → Bool × List Char
  | '-' :: cs => (true, cs)
  | '+' :: cs => (false, cs)
  | cs => (false, cs)

/-- The value with its sign, if it fits into 64 bits. -/
def fit (negative : Bool) (v : Nat) : Except Failure Int :=
  if negative then
    if v ≤ Nat.pow 2 63 then .ok (-(v : Int)) else .error .tooLarge
  else if v < Nat.pow 2 63 then .ok v
  else .error .tooLarge

/-- The signed integer of a text. -/
def parse (cs : List Char) : Except Failure Int :=
  let (negative, rest) := signed cs
  match parseUnsigned rest with
  | .error e => .error e
  | .ok v => fit negative v

/-- The signed integer of digits in a fixed base, without separators. -/
def parseIn (base : Nat) (cs : List Char) : Except Failure Int :=
  let (negative, rest) := signed cs
  if rest.isEmpty then .error .malformed
  else
    match accumulate base 0 rest with
    | .error e => .error e
    | .ok v => fit negative v

end TaintSeed.Text.Integer
