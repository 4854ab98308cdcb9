import TaintSeed.Regex.Outline
import TaintSeed.Text.Bytes

/-!
# Reading Regular Expressions

The notation: characters stand for themselves, `.` for any but the line feed,
`[...]` for a set, `(...)` groups, `|` separates alternatives, `*`, `+`, `?` and
`{n,m}` repeat what is before them, and a backslash takes away the meaning of a
sign or gives one to a letter. There are no back references and no conditions
on what follows, so every expression can be matched in one pass over a text.

The reader goes through the expression once. It keeps the alternatives and the
pieces of the group that it is in, and those of the groups around it on a
stack. Each step takes at least one character, so the length of the expression
bounds the number of steps.

Besides malformed text the reader refuses what would be too large: repetitions
beyond a thousand rounds, alone or multiplied, and what goes beyond the limits
of the outline that it draws on the way.

## Main definitions

* `Regex.Flags`: How the characters of a part of the expression are meant.
* `Regex.parse?`: Reads an expression.
-/

namespace TaintSeed.Regex

/-- How characters are meant, which `(?flags)` changes. -/
structure Flags where
  /-- Case is disregarded. -/
  fold : Bool
  /-- `^` and `$` mean the ends of lines. -/
  lines : Bool
  /-- `.` means any character, the line feed too. -/
  dotAll : Bool
deriving DecidableEq, Inhabited

/-- A group that has not been closed. -/
structure Group where
  /-- What was meant outside, and is meant again behind the group. -/
  outer : Flags
  /-- The alternatives before the group, the last one first. -/
  alternatives : List Regex
  /-- The pieces before the group in its alternative, the last one first. -/
  pieces : List Regex
deriving Inhabited

/-- Where the reader is. -/
structure Reader where
  /-- How characters are meant here. -/
  flags : Flags
  /-- The groups around this place, the innermost first. -/
  groups : List Group
  /-- The finished alternatives of the innermost group, the last one first. -/
  alternatives : List Regex
  /-- The pieces of the present alternative, the last one first. -/
  pieces : List Regex
  /-- Whether the last thing read was a repetition. -/
  afterRepeat : Bool
  /-- What counts for the limits. -/
  outline : Outline
deriving Inhabited

/-- The greatest number of rounds. -/
def maxRounds : Nat := 1000

/-- The pieces of an alternative, given the last one first, one behind the other. -/
def joinPieces : List Regex → Regex
  | [] => .empty
  | r :: rs => rs.foldl (fun s q => .seq q s) r

/-- Alternatives, given the last one first, as one expression. -/
def joinAlternatives : List Regex → Regex
  | [] => .empty
  | r :: rs => rs.foldl (fun s q => .alt q s) r

namespace Reader

/-- Goes on in the outline, if the limits allow it. -/
def outlined? (s : Reader) (step : Outline.Step Unit) : Option Reader :=
  (step s.outline).map (fun r => { s with outline := r.2 })

/-- Adds a piece to the present alternative. -/
def push? (s : Reader) (r : Regex) (step : Outline.Step Unit) : Option Reader :=
  { s with pieces := r :: s.pieces, afterRepeat := false }.outlined? step

/-- Adds one character of a set. -/
def pushSet? (s : Reader) (set : CharSet) : Option Reader := s.push? (.one set) (Outline.oneOf set)

/-- Adds a plain character. -/
def pushChar? (s : Reader) (c : Nat) (isEscaped : Bool) : Option Reader :=
  s.push? (.one (CharSet.foldedIf s.flags.fold (.single c)))
    (if isEscaped then Outline.escaped c s.flags.fold else Outline.text c s.flags.fold)

/-- Adds plain characters. -/
def pushChars? (s : Reader) (cs : List Char) : Option Reader :=
  cs.foldl (fun s? c => s?.bind (fun s => s.pushChar? c.toNat false)) (some s)

/-- Adds a condition. -/
def pushAnchor? (s : Reader) (a : Anchor) : Option Reader := s.push? (.anchor a) (Outline.anchor a)

/-- Begins the next alternative. -/
def nextAlternative? (s : Reader) : Option Reader :=
  { s with
    alternatives := joinPieces s.pieces :: s.alternatives
    pieces := []
    afterRepeat := false }.outlined? Outline.bar

/-- All alternatives of the innermost group. -/
def whole (s : Reader) : Regex := joinAlternatives (joinPieces s.pieces :: s.alternatives)

/-- Opens a group, in which characters are meant as `inner` says. -/
def open? (s : Reader) (isNumbered : Bool) (inner : Flags) : Option Reader :=
  { s with
    flags := inner
    groups := ⟨s.flags, s.alternatives, s.pieces⟩ :: s.groups
    alternatives := []
    pieces := []
    afterRepeat := false }.outlined? (Outline.open isNumbered)

/-- Closes the innermost group. -/
def close? (s : Reader) : Option Reader :=
  match s.groups with
  | [] => none
  | g :: gs =>
    { s with
      flags := g.outer
      groups := gs
      alternatives := g.alternatives
      pieces := s.whole :: g.pieces
      afterRepeat := false }.outlined? Outline.close

/-- Repeats the last piece of the present alternative. -/
def repeat? (s : Reader) (wrap : Regex → Regex) (outline : Shape → Shape) : Option Reader :=
  if s.afterRepeat then none
  else
    match s.pieces with
    | [] => none
    | r :: rs =>
      { s with pieces := wrap r :: rs, afterRepeat := true }.outlined? (Outline.repeated outline)

end Reader

/-- The value of a hexadecimal digit. -/
def hexValue? (c : Char) : Option Nat :=
  if c.isDigit then some (c.toNat - 48)
  else if 'a' ≤ c && c ≤ 'f' then some (c.toNat - 87)
  else if 'A' ≤ c && c ≤ 'F' then some (c.toNat - 55)
  else none

/-- Whether a character is an octal digit. -/
def isOctal (c : Char) : Bool := '0' ≤ c && c ≤ '7'

/-- Reads hexadecimal digits up to a closing brace; the number must be a code point. -/
def bracedHex? (value : Nat) (some? : Bool) : List Char → Option (Nat × List Char)
  | [] => none
  | c :: cs =>
    if c == '}' then if some? then some (value, cs) else none
    else
      match hexValue? c with
      | none => none
      | some d =>
        let value := 16 * value + d
        if 0x10FFFF < value then none else bracedHex? value true cs

/-- Reads at most `n` octal digits behind `value`. -/
def octal (value : Nat) : Nat → List Char → Nat × List Char
  | 0, cs => (value, cs)
  | _ + 1, [] => (value, [])
  | n + 1, c :: cs =>
    if isOctal c then octal (8 * value + (c.toNat - 48)) n cs else (value, c :: cs)

/-- Reads what follows a backslash and stands for one code point. -/
def escape? : List Char → Option (Nat × List Char)
  | [] => none
  | c :: cs =>
    if c == '0' then some (octal 0 2 cs)
    else if isOctal c then
      match cs with
      -- A single digit would be a reference to a group, and there are none.
      | d :: _ => if isOctal d then some (octal (c.toNat - 48) 2 cs) else none
      | [] => none
    else
      match c with
      | 'x' =>
        match cs with
        | [] => none
        | d :: ds =>
          if d == '{' then bracedHex? 0 false ds
          else
            match ds with
            | [] => none
            | e :: es =>
              match hexValue? d, hexValue? e with
              | some x, some y => some (16 * x + y, es)
              | _, _ => none
      | 'a' => some (7, cs)
      | 'f' => some (12, cs)
      | 'n' => some (10, cs)
      | 'r' => some (13, cs)
      | 't' => some (9, cs)
      | 'v' => some (11, cs)
      | _ => if c.toNat < 128 && !c.isAlphanum then some (c.toNat, cs) else none

/-- Splits a list before the first member that satisfies `p`; the member itself is dropped. -/
def cutAt (p : Char → Bool) : List Char → Option (List Char × List Char)
  | [] => none
  | c :: cs => if p c then some ([], cs) else (cutAt p cs).map (fun r => (c :: r.1, r.2))

/-- Splits a list before the first place where `x` and `y` follow each other, and behind them. -/
def cutAtPair (x y : Char) : List Char → Option (List Char × List Char)
  | [] => none
  | [_] => none
  | c :: d :: cs =>
    if c == x && d == y then some ([], cs)
    else (cutAtPair x y (d :: cs)).map (fun r => (c :: r.1, r.2))

/-- Reads the name behind `\p` or `\P`: one character, or several between braces. -/
def property? (fold positive : Bool) : List Char → Option (CharSet × List Char)
  | [] => none
  | c :: cs =>
    if c == '{' then
      match cutAt (· == '}') cs with
      | none => none
      | some (name, rest) => (CharSet.property? fold positive name).map (fun s => (s, rest))
    else (CharSet.property? fold positive [c]).map (fun s => (s, cs))

/-- Whether the character begins a property behind a backslash; tells its sign. -/
def propertySign? (c : Char) : Option Bool :=
  if c == 'p' then some true else if c == 'P' then some false else none

/-- Reads one end of a range in brackets. -/
def setChar? : List Char → Option (Nat × List Char)
  | [] => none
  | c :: cs => if c == '\\' then escape? cs else some (c.toNat, cs)

/-- Reads one member of a set in brackets: a set with a name or a letter, a character, or a
    range. -/
def setMember? (fold : Bool) (cs : List Char) : Option (CharSet × List Char) :=
  let plain : Option (CharSet × List Char) :=
    match setChar? cs with
    | none => none
    | some (low, rest) =>
      match rest with
      | '-' :: d :: ds =>
        -- A dash before the closing bracket is a member, not the middle of a range.
        if d == ']' then some (CharSet.foldedIf fold (.single low), rest)
        else
          match setChar? (d :: ds) with
          | none => none
          | some (high, rest) =>
            if high < low then none
            else some (CharSet.foldedIf fold (.ranges [(low, high)]), rest)
      | _ => some (CharSet.foldedIf fold (.single low), rest)
  match cs with
  | '[' :: ':' :: rest =>
    match cutAtPair ':' ']' rest with
    -- Without its closing sign it is no name but an ordinary member.
    | none => plain
    | some (name, rest) => (CharSet.posix? fold name).map (fun s => (s, rest))
  | '\\' :: c :: rest =>
    match propertySign? c with
    | some positive => property? fold positive rest
    | none =>
      match CharSet.perl? fold c with
      | some s => some (s, rest)
      | none => plain
  | _ => plain

/-- Reads the members of a set up to the closing bracket, which does not close the set when it
    comes first. -/
def setMembers? (fold : Bool) : Nat → Bool → CharSet → List Char → Option (CharSet × List Char)
  | 0, _, _, _ => none
  | fuel + 1, first, set, cs =>
    match cs with
    | [] => none
    | c :: rest =>
      if c == ']' && !first then some (set, rest)
      else
        match setMember? fold cs with
        | none => none
        | some (member, rest) => setMembers? fold fuel false (.union set member) rest

/-- Reads a set behind its opening bracket. -/
def set? (fold : Bool) (cs : List Char) : Option (CharSet × List Char) :=
  match cs with
  | '^' :: rest =>
    (setMembers? fold (rest.length + 1) true .none rest).map (fun r => (.compl r.1, r.2))
  | _ => setMembers? fold (cs.length + 1) true .none cs

/-- Reads a number without leading zeros; the value of a number of more than nine digits is
    only known to be large. -/
def number? (cs : List Char) : Option (Nat × List Char) :=
  let ds := cs.takeWhile Char.isDigit
  let rest := cs.dropWhile Char.isDigit
  match ds with
  | [] => none
  | '0' :: _ :: _ => none
  | _ => some (ds.foldl (fun n d => 10 * n + (d.toNat - 48)) 0, rest)

/-- Reads the bounds of a repetition behind the opening brace. -/
def bounds? (cs : List Char) : Option (Nat × Option Nat × List Char) :=
  match number? cs with
  | none => none
  | some (least, '}' :: rest) => some (least, some least, rest)
  | some (least, ',' :: '}' :: rest) => some (least, none, rest)
  | some (least, ',' :: rest) =>
    match number? rest with
    | some (most, '}' :: rest) => some (least, some most, rest)
    | _ => none
  | some _ => none

/-- Drops the question mark that may follow a repetition. -/
def dropLazy : List Char → List Char
  | '?' :: rest => rest
  | cs => cs

/-- Whether the name of a group is made of letters, digits and underscores. -/
def isGroupName (name : List Char) : Bool :=
  !name.isEmpty && name.all (fun c => c == '_' || c.isAlphanum)

/-- Reads the flags behind `(?`, up to the colon of a group or the closing parenthesis; tells
    which of the two it was. -/
def flags? (flags : Flags) (positive sawFlag : Bool) : List Char → Option (Flags × Bool × List Char)
  | [] => none
  | c :: cs =>
    match c with
    | 'i' => flags? { flags with fold := positive } positive true cs
    | 'm' => flags? { flags with lines := positive } positive true cs
    | 's' => flags? { flags with dotAll := positive } positive true cs
    | 'U' => flags? flags positive true cs
    | '-' => if positive then flags? flags false false cs else none
    | ':' => if positive || sawFlag then some (flags, true, cs) else none
    | ')' => if positive || sawFlag then some (flags, false, cs) else none
    | _ => none

/-- Reads what follows `(?`: a named group, a group with flags, or flags alone. -/
def special? (s : Reader) (cs : List Char) : Option (Reader × List Char) :=
  let named (rest : List Char) : Option (Reader × List Char) :=
    match cutAt (· == '>') rest with
    | none => none
    | some (name, rest) =>
      if isGroupName name then (s.open? true s.flags).map (fun s => (s, rest)) else none
  match cs with
  | 'P' :: '<' :: c :: rest => named (c :: rest)
  | '<' :: c :: rest => named (c :: rest)
  | _ =>
    match flags? s.flags true false cs with
    | none => none
    | some (flags, true, rest) => (s.open? false flags).map (fun s => (s, rest))
    | some (flags, false, rest) => some ({ s with flags := flags, afterRepeat := false }, rest)

/-- Reads what follows a backslash outside of a set. -/
def backslash? (s : Reader) (cs : List Char) : Option (Reader × List Char) :=
  let anchor (a : Anchor) (rest : List Char) : Option (Reader × List Char) :=
    (s.pushAnchor? a).map (fun s => (s, rest))
  let char : Option (Reader × List Char) :=
    (escape? cs).bind (fun r => (s.pushChar? r.1 true).map (fun s => (s, r.2)))
  match cs with
  | [] => none
  | c :: rest =>
    match c with
    | 'A' => anchor .textStart rest
    | 'b' => anchor .wordBoundary rest
    | 'B' => anchor .noWordBoundary rest
    | 'z' => anchor .textEnd rest
    | 'Q' =>
      let (literal, rest) := (cutAtPair '\\' 'E' rest).getD (rest, [])
      ({ s with afterRepeat := false }.pushChars? literal).map (fun s => (s, rest))
    | _ =>
      match propertySign? c with
      | some positive =>
        (property? s.flags.fold positive rest).bind
          (fun r => (s.pushSet? r.1).map (fun s => (s, r.2)))
      | none =>
        match CharSet.perl? s.flags.fold c with
        | some set => (s.pushSet? set).map (fun s => (s, rest))
        | none => char

/-- Reads a repetition with bounds, or an opening brace that stands for itself. -/
def brace? (s : Reader) (cs : List Char) : Option (Reader × List Char) :=
  match bounds? cs with
  | none => (s.pushChar? 123 false).map (fun s => (s, cs))
  | some (least, most, rest) =>
    if maxRounds < least || most.any (fun m => maxRounds < m || m < least) then none
    else
      let outline (b : Shape) : Shape :=
        .rounds (b.height + 1) (Shape.roundsSize b.size least most) least most
          (rest.head? == some '?') b
      match s.repeat? (fun r => .rounds r least most) outline with
      | none => none
      | some s =>
        let fits :=
          match s.pieces with
          | [] => true
          | r :: _ => r.repeatFits maxRounds
        -- Nested repetitions multiply, so their product is bounded as well.
        if (2 ≤ least || most.any (fun m => 2 ≤ m)) && !fits then none
        else some (s, dropLazy rest)

/-- Reads the next part of an expression. -/
def step? (s : Reader) (c : Char) (cs : List Char) : Option (Reader × List Char) :=
  let behind (rest : List Char) (s : Option Reader) : Option (Reader × List Char) :=
    s.map (fun s => (s, rest))
  let wrapped (size : Nat) (b : Shape) : Shape := .wrapped (b.height + 1) (b.size + size)
  match c with
  | '(' =>
    match cs with
    | '?' :: rest => special? s rest
    | _ => behind cs (s.open? true s.flags)
  | ')' => behind cs s.close?
  | '|' => behind cs s.nextAlternative?
  | '^' => behind cs (s.pushAnchor? (if s.flags.lines then .lineStart else .textStart))
  | '$' => behind cs (s.pushAnchor? (if s.flags.lines then .lineEnd else .textEnd))
  | '.' => behind cs (s.pushSet? (if s.flags.dotAll then .all else .notNewline))
  | '[' => (set? s.flags.fold cs).bind (fun r => behind r.2 (s.pushSet? r.1))
  | '*' => behind (dropLazy cs) (s.repeat? .star (wrapped 2))
  | '+' => behind (dropLazy cs) (s.repeat? .plus (wrapped 1))
  | '?' => behind (dropLazy cs) (s.repeat? .optional (wrapped 1))
  | '{' => brace? s cs
  | '\\' => backslash? s cs
  | _ => behind cs (s.pushChar? c.toNat false)

/-- Reads an expression to its end. -/
def read? : Nat → Reader → List Char → Option Reader
  | _, s, [] => some s
  | 0, _, _ :: _ => none
  | fuel + 1, s, c :: cs =>
    match step? s c cs with
    | none => none
    | some (s, rest) => read? fuel s rest

/-- Reads an expression of characters; nothing if it is malformed or too large. -/
def ofChars? (cs : List Char) : Option Regex :=
  match read? cs.length ⟨⟨false, false, false⟩, [], [], [], false, .start cs.length⟩ cs with
  | none => none
  | some s =>
    if s.groups.isEmpty then (s.outlined? Outline.endAlternatives).map Reader.whole else none

/-- Reads an expression. A byte that is part of no character has no place in one. -/
def parse? (text : String) : Option Regex :=
  if Text.Bytes.isProper text then ofChars? (Text.Bytes.shownChars text) else none

end TaintSeed.Regex
