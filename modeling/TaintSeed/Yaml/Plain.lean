import TaintSeed.Text.Integer

/-!
# What Plain Scalars Mean

A plain scalar means what its text looks like: nothing, a truth value, an
integer, a number with a fraction, a point in time, or else the text itself. A
tag may ask for one of these; then the text must look like it. With any other
tag the text stands for itself.

Of a number with a fraction only the integer part is ever used, so that is
what is kept. The number is first rounded to 53 binary digits, which can carry
it over to the next integer.

## Main definitions

* `Yaml.Meaning`: What a scalar means.
* `Yaml.Fraction`: A number with a fraction.
* `Yaml.Meaning.ofText`: What a text looks like.
* `Yaml.Meaning.tagged`: What a text with a tag means.
-/

namespace TaintSeed.Yaml

/-- A number with a fraction, or what is beyond the numbers. -/
inductive Fraction where
  /-- No number. -/
  | undefined
  /-- Beyond all numbers, on the side of the sign. -/
  | infinite (negative : Bool)
  /-- A number with this integer part. -/
  | finite (whole : Int)
deriving DecidableEq, Inhabited

namespace Fraction

/-- The integer nearest to a quotient, of two the even one. -/
def nearest (num den : Nat) : Nat :=
  let q := num / den
  let r := num % den
  if den < 2 * r || (2 * r = den && q % 2 = 1) then q + 1 else q

/-- `num / den` times the power of two with the exponent `-e`, rounded to an integer. -/
def scaled (num den : Nat) (e : Int) : Nat :=
  if 0 ≤ e then nearest num (den * Nat.pow 2 e.toNat)
  else nearest (num * Nat.pow 2 (-e).toNat) den

/-- The integer part of `m` times the power of two with the exponent `e`. -/
def wholePart (m : Nat) (e : Int) : Nat :=
  if 0 ≤ e then m * Nat.pow 2 e.toNat else m / Nat.pow 2 (-e).toNat

/-- The integer part of a quotient, after it has been rounded to 53 binary digits. Nothing if
    that is `2 ^ 1024` or more. -/
def rounded? (num den : Nat) : Option Nat :=
  if num = 0 then some 0
  else
    let guess : Int := (Nat.log2 num : Int) - Nat.log2 den - 52
    let e := if scaled num den guess < Nat.pow 2 52 then guess - 1 else guess
    let e := max e (-1074)
    let whole := wholePart (scaled num den e) e
    if whole < Nat.pow 2 1024 then some whole else none

/-- About the number of decimal digits of a number: not more, and less by a small part at most. -/
def decimalLength (n : Nat) : Nat := Nat.log2 n * 30102 / 100000

/-- The number with the given digits and decimal exponent. Nothing if it is too large. Numbers far
    below one and far above the greatest are told by their lengths alone. -/
def ofDecimal? (negative : Bool) (digits : Nat) (exponent : Int) : Option Fraction :=
  let signed (n : Nat) : Fraction := .finite (if negative then -(n : Int) else n)
  let size : Int := (decimalLength digits : Int) + exponent
  if digits = 0 || size < -2000 then some (signed 0)
  else if 2000 < size then none
  else
    (rounded? (digits * Nat.pow 10 exponent.toNat) (Nat.pow 10 (-exponent).toNat)).map signed

/-- The number that is nearest to an integer. -/
def ofInt (i : Int) : Fraction := (ofDecimal? (decide (i < 0)) i.natAbs 0).getD .undefined

/-- The integer of 64 bits that a number is cut to. Numbers above all of these have none, those
    below give the least one. -/
def toInteger? : Fraction → Option Int
  | .undefined => none
  | .infinite true => some (-(Int.pow 2 63))
  | .infinite false => none
  | .finite w =>
    if Int.pow 2 63 < w then none
    else if w < -(Int.pow 2 63) || Int.pow 2 63 ≤ w then some (-(Int.pow 2 63))
    else some w

end Fraction

/-- What a scalar means. -/
inductive Meaning where
  /-- Nothing. -/
  | null
  /-- A truth value. -/
  | truth (b : Bool)
  /-- An integer. -/
  | integer (i : Int)
  /-- A number with a fraction. -/
  | fraction (f : Fraction)
  /-- A point in time. -/
  | time
  /-- The text itself. -/
  | text
deriving DecidableEq, Inhabited

namespace Meaning

/-- The tag of a meaning. -/
def tag : Meaning → String
  | .null => "!!null"
  | .truth _ => "!!bool"
  | .integer _ => "!!int"
  | .fraction _ => "!!float"
  | .time => "!!timestamp"
  | .text => "!!str"

/-- The texts with a meaning of their own. -/
def words : List (String × Meaning) :=
  [("", .null), ("~", .null), ("null", .null), ("Null", .null), ("NULL", .null),
   ("true", .truth true), ("True", .truth true), ("TRUE", .truth true),
   ("false", .truth false), ("False", .truth false), ("FALSE", .truth false),
   (".nan", .fraction .undefined), (".NaN", .fraction .undefined), (".NAN", .fraction .undefined),
   (".inf", .fraction (.infinite false)), (".Inf", .fraction (.infinite false)),
   (".INF", .fraction (.infinite false)), ("+.inf", .fraction (.infinite false)),
   ("+.Inf", .fraction (.infinite false)), ("+.INF", .fraction (.infinite false)),
   ("-.inf", .fraction (.infinite true)), ("-.Inf", .fraction (.infinite true)),
   ("-.INF", .fraction (.infinite true))]

/-- Reads digits, and gives those and the rest. -/
def digits (cs : List Char) : List Char × List Char :=
  (cs.takeWhile Char.isDigit, cs.dropWhile Char.isDigit)

/-- The value of decimal digits. -/
def decimal (ds : List Char) : Nat := ds.foldl (fun n d => 10 * n + (d.toNat - 48)) 0

/-- Reads an exponent to the end of a text; none is zero. -/
def exponent? : List Char → Option Int
  | [] => some 0
  | c :: cs =>
    if c == 'e' || c == 'E' then
      let (negative, cs) := Text.Integer.signed cs
      let (ds, rest) := digits cs
      if ds.isEmpty || !rest.isEmpty then none
      else some (if negative then -(decimal ds : Int) else decimal ds)
    else none

/-- A number with digits before or behind a point, and perhaps an exponent. A point without
    digits before it needs some behind it. -/
def fraction? (cs : List Char) : Option Fraction :=
  let (negative, cs) := Text.Integer.signed cs
  let (before, rest) := digits cs
  let (behind, rest, ok) :=
    match rest with
    | '.' :: rest =>
      let (behind, rest) := digits rest
      (behind, rest, !(before.isEmpty && behind.isEmpty))
    | _ => ([], rest, !before.isEmpty)
  if ok then
    (exponent? rest).bind (fun e =>
      Fraction.ofDecimal? negative (decimal (before ++ behind)) (e - behind.length))
  else none

/-- An integer of 64 bits, with or without sign. -/
def integer? (cs : List Char) : Option Int :=
  match Text.Integer.parse cs with
  | .ok i => some i
  | .error _ =>
    match Text.Integer.parseUnsigned cs with
    | .ok n => some n
    | .error _ => none

/-- An integer with a sign between the mark of its base and its digits. -/
def oddInteger? (cs : List Char) : Option Int :=
  match cs with
  | '0' :: 'b' :: ds => (Text.Integer.parseIn 2 ds).toOption
  | '0' :: 'o' :: ds => (Text.Integer.parseIn 8 ds).toOption
  | _ => none

/-- Reads one or two digits. -/
def shortNumber? (cs : List Char) : Option (Nat × List Char) :=
  match cs with
  | [] => none
  | c :: cs =>
    if c.isDigit then
      match cs with
      | d :: ds =>
        if d.isDigit then some (10 * (c.toNat - 48) + (d.toNat - 48), ds)
        else some (c.toNat - 48, cs)
      | [] => some (c.toNat - 48, cs)
    else none

/-- The number of days of a month. -/
def daysOf (year month : Nat) : Nat :=
  if month = 2 then if year % 4 = 0 && (year % 100 ≠ 0 || year % 400 = 0) then 29 else 28
  else if month = 4 || month = 6 || month = 9 || month = 11 then 30
  else 31

/-- Reads a year, a month and a day with dashes between them. -/
def date? (cs : List Char) : Option (List Char) :=
  let (year, rest) := digits cs
  match rest with
  | '-' :: rest =>
    if year.length = 4 then
      match shortNumber? rest with
      | some (month, '-' :: rest) =>
        match shortNumber? rest with
        | some (day, rest) =>
          if 1 ≤ month && month ≤ 12 && 1 ≤ day && day ≤ daysOf (decimal year) month then some rest
          else none
        | none => none
      | _ => none
    else none
  | _ => none

/-- Reads hours, minutes and seconds with colons between them, and a fraction of a second. -/
def timeOfDay? (cs : List Char) : Option (List Char) :=
  match shortNumber? cs with
  | some (h, ':' :: cs) =>
    match shortNumber? cs with
    | some (m, ':' :: cs) =>
      match shortNumber? cs with
      | some (s, cs) =>
        if h < 24 && m < 60 && s < 60 then
          match cs with
          | p :: d :: ds =>
            if (p == '.' || p == ',') && d.isDigit then some (ds.dropWhile Char.isDigit)
            else some cs
          | _ => some cs
        else none
      | none => none
    | _ => none
  | _ => none

/-- Whether a text is the offset of a time zone. -/
def isZone (cs : List Char) : Bool :=
  match cs with
  | ['Z'] => true
  | [sign, h1, h2, ':', m1, m2] =>
    (sign == '+' || sign == '-') && [h1, h2, m1, m2].all Char.isDigit &&
      decimal [h1, h2] ≤ 24 && decimal [m1, m2] ≤ 60
  | _ => false

/-- Whether a text is a date, alone or with a time. -/
def isTime (cs : List Char) : Bool :=
  match date? cs with
  | none => false
  | some [] => true
  | some (c :: rest) =>
    if c == 'T' || c == 't' then (timeOfDay? rest).any isZone
    else if c == ' ' then (timeOfDay? (rest.dropWhile (· == ' '))).any List.isEmpty
    else false

/-- What a number or a time looks like; `mayBeTime` tells whether times are considered. -/
def numeric (cs : List Char) (mayBeTime : Bool) : Meaning :=
  if mayBeTime && isTime cs then .time
  else
    let plain := cs.filter (· != '_')
    match integer? plain with
    | some i => .integer i
    | none =>
      match fraction? plain with
      | some f => .fraction f
      | none =>
        match oddInteger? plain with
        | some i => .integer i
        | none => .text

/-- What a text looks like, by its first character. -/
def looks (text : String) (mayBeTime : Bool) : Meaning :=
  match words.find? (fun w => w.1 == text) with
  | some w => w.2
  | none =>
    match text.toList with
    | [] => .null
    | c :: cs =>
      if c.isDigit || c == '+' || c == '-' then numeric (c :: cs) mayBeTime
      else if c == '.' then
        if Text.Integer.separatorsFit (c :: cs) then
          match fraction? ((c :: cs).filter (· != '_')) with
          | some f => .fraction f
          | none => .text
        else .text
      else .text

/-- What a plain text without a tag looks like. -/
def ofText (text : String) : Meaning := looks text true

/-- The tags that ask for a text of a certain look. -/
def askingTags : List String := ["!!bool", "!!int", "!!float", "!!null", "!!timestamp"]

/-- What a text with a tag means; nothing if it does not look like what the tag asks for. Most
    tags ask for nothing. -/
def tagged (tag text : String) : Option Meaning :=
  if !askingTags.contains tag then some .text
  else
    let m := looks text (tag == "!!timestamp")
    if m.tag = tag then some m
    else
      match m with
      | .integer i =>
        if tag = "!!float" && i < Int.pow 2 63 then some (.fraction (.ofInt i)) else none
      | _ => none

end Meaning

end TaintSeed.Yaml
