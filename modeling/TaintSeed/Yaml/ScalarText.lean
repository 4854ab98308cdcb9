import TaintSeed.Yaml.Cursor

/-!
# The Text of Scalars

A scalar is written plainly, between single or double quotes, or as a block of
lines. In the first three forms a line end inside the scalar is folded: a
single one becomes a space, several become one fewer. In a block, lines are
kept or folded as its first line says, and the indentation of the block is
dropped.

## Main definitions

* `Yaml.Gap`: Blanks and line ends between two parts of a scalar.
* `Yaml.plainScalar`: Reads a plain scalar.
* `Yaml.quotedScalar`: Reads a scalar between quotes.
* `Yaml.blockScalar`: Reads a block of lines.
-/

namespace TaintSeed.Yaml

/-- Blanks and line ends between two parts of a scalar. -/
structure Gap where
  /-- The blanks, if there is no line end. -/
  blanks : String
  /-- The first line end; it is empty if the line end was escaped. -/
  first? : Option String
  /-- The line ends behind the first. -/
  more : String
deriving Inhabited

namespace Gap

/-- No gap. -/
def none : Gap := ⟨"", Option.none, ""⟩

/-- What the gap leaves in the scalar. -/
def folded (g : Gap) : String :=
  match g.first? with
  | Option.none => g.blanks
  | some first => if first = "\n" then (if g.more = "" then " " else g.more) else first ++ g.more

/-- Reads the rest of a gap. In a plain scalar, a tab must not stand in the indentation, which
    is then given. -/
def read (indent? : Option Int) : Nat → Cursor → Gap → Except Malformed (Gap × Cursor)
  | 0, c, g => .ok (g, c)
  | fuel + 1, c, g =>
    match c.rest with
    | [] => .ok (g, c)
    | x :: _ =>
      if isBlank x then
        match g.first? with
        | Option.none => read indent? fuel c.next { g with blanks := g.blanks.push x }
        | some _ =>
          if x == '\t' && indent?.any (fun n => decide ((c.column : Int) < n)) then
            c.refuse "found a tab character that violates indentation"
          else read indent? fuel c.next g
      else if isBreak x then
        match g.first? with
        | Option.none => read indent? fuel c.skipBreak ⟨"", some c.breakText, ""⟩
        | some _ => read indent? fuel c.skipBreak { g with more := g.more ++ c.breakText }
      else .ok (g, c)

end Gap

/-- The number of characters up to the next blank or sign that ends a plain scalar. In brackets
    there are more of these signs. -/
def plainLength (inFlow : Bool) : List Char → Nat
  | [] => 0
  | x :: xs =>
    if isBlank x || isBreak x then 0
    else if x == ':' && Cursor.gapAhead xs then 0
    else if inFlow && ",?[]\x7b\x7d".toList.contains x then 0
    else plainLength inFlow xs + 1

/-- Reads the rest of a plain scalar. Tells also whether a line end was read behind it. -/
def plainScalar (inFlow : Bool) (indent : Int) :
    Nat → Cursor → String → Gap → Except Malformed (String × Cursor × Bool)
  | 0, c, text, g => .ok (text, c, g.first?.isSome)
  | fuel + 1, c, text, g =>
    match c.look 4 with
    | .error e => .error e
    | .ok c =>
      if c.atDocumentMark || c.at? '#' then .ok (text, c, g.first?.isSome)
      else
        let n := plainLength inFlow c.rest
        let (text, g) :=
          if n = 0 then (text, g)
          else (text ++ g.folded ++ String.ofList (c.rest.take n), Gap.none)
        let c := c.advance n
        if c.rest.isEmpty || !c.gapAt 0 then .ok (text, c, g.first?.isSome)
        else
          match Gap.read (some indent) (c.remaining + 1) c g with
          | .error e => .error e
          | .ok (g, c) =>
            if !inFlow && decide ((c.column : Int) < indent) then .ok (text, c, g.first?.isSome)
            else plainScalar inFlow indent fuel c text g

/-- The character that a letter stands for behind a backslash. -/
def escaped? (x : Char) : Option Char :=
  match x with
  | '0' => some (Char.ofNat 0)
  | 'a' => some (Char.ofNat 7)
  | 'b' => some (Char.ofNat 8)
  | 't' => some '\t'
  | '\t' => some '\t'
  | 'n' => some '\n'
  | 'v' => some (Char.ofNat 11)
  | 'f' => some (Char.ofNat 12)
  | 'r' => some '\r'
  | 'e' => some (Char.ofNat 27)
  | ' ' => some ' '
  | '\x22' => some '\x22'
  | '\x27' => some '\x27'
  | '\\' => some '\\'
  | 'N' => some (Char.ofNat 0x85)
  | '_' => some (Char.ofNat 0xA0)
  | 'L' => some (Char.ofNat 0x2028)
  | 'P' => some (Char.ofNat 0x2029)
  | _ => none

/-- The number of hexadecimal digits that a letter announces behind a backslash. -/
def codeLength? (x : Char) : Option Nat :=
  if x == 'x' then some 2 else if x == 'u' then some 4 else if x == 'U' then some 8 else none

/-- The value of a hexadecimal digit. -/
def hexDigit? (x : Char) : Option Nat :=
  if x.isDigit then some (x.toNat - 48)
  else if 'a' ≤ x && x ≤ 'f' then some (x.toNat - 87)
  else if 'A' ≤ x && x ≤ 'F' then some (x.toNat - 55)
  else none

/-- The value of hexadecimal digits. -/
def hexValue? (xs : List Char) : Option Nat :=
  xs.foldl (fun v? x => v?.bind (fun v => (hexDigit? x).map (fun d => 16 * v + d))) (some 0)

/-- Reads an escape behind the backslash at `c`. -/
def escape (c : Cursor) : Except Malformed (Char × Cursor) :=
  match c.peek? 1 with
  | none => c.refuse "found unknown escape character"
  | some x =>
    match escaped? x with
    | some y => .ok (y, c.advance 2)
    | none =>
      match codeLength? x with
      | none => c.refuse "found unknown escape character"
      | some n =>
        let digits := (c.rest.drop 2).take n
        if digits.length < n then c.refuse "did not find expected hexdecimal number"
        else
          match hexValue? digits with
          | none => c.refuse "did not find expected hexdecimal number"
          | some v =>
            if (0xD800 ≤ v && v ≤ 0xDFFF) || 0x10FFFF < v then
              c.refuse "found invalid Unicode character escape code"
            else .ok (Char.ofNat v, c.advance (2 + n))

/-- Reads characters between quotes up to a blank, a line end or the closing quote. Tells also
    whether an escaped line end was read last. -/
def quotedPart (quote : Char) :
    Nat → Cursor → String → Except Malformed (String × Cursor × Bool)
  | 0, c, text => .ok (text, c, false)
  | fuel + 1, c, text =>
    match c.rest with
    | [] => .ok (text, c, false)
    | x :: xs =>
      if isBlank x || isBreak x then .ok (text, c, false)
      else if x == quote then
        if quote == '\x27' && xs.head? == some quote then
          quotedPart quote fuel (c.advance 2) (text.push quote)
        else .ok (text, c, false)
      else if x == '\\' && quote == '\x22' then
        if !xs.isEmpty && Cursor.breakAhead xs then .ok (text, c.next.skipBreak, true)
        else
          match escape c with
          | .error e => .error e
          | .ok (y, c) => quotedPart quote fuel c (text ++ String.ofList (Text.Bytes.keep y))
      else quotedPart quote fuel c.next (text.push x)

/-- Reads the rest of a scalar between quotes, and the closing quote. -/
def quotedScalar (quote : Char) : Nat → Cursor → String → Except Malformed (String × Cursor)
  | 0, c, _ => c.refuse "found unexpected end of stream"
  | fuel + 1, c, text =>
    match c.look 4 with
    | .error e => .error e
    | .ok c =>
      if c.atDocumentMark then c.refuse "found unexpected document indicator"
      else if c.rest.isEmpty then c.refuse "found unexpected end of stream"
      else
        match quotedPart quote (c.remaining + 1) c text with
        | .error e => .error e
        | .ok (text, c, escapedBreak) =>
          if c.at? quote then .ok (text, c.next)
          else
            let g := if escapedBreak then ⟨"", some "", ""⟩ else Gap.none
            match Gap.read none (c.remaining + 1) c g with
            | .error e => .error e
            | .ok (g, c) => quotedScalar quote fuel c (text ++ g.folded)

/-- What becomes of the line ends at the end of a block. -/
inductive Chomping where
  /-- All are dropped. -/
  | strip
  /-- One is kept. -/
  | clip
  /-- All are kept. -/
  | keep
deriving DecidableEq, Inhabited

/-- The chomping that a sign stands for. -/
def chomping? (x : Char) : Option Chomping :=
  if x == '+' then some .keep else if x == '-' then some .strip else none

/-- Reads a digit from one to nine, if a digit follows. -/
def indentDigit (c : Cursor) : Except Malformed (Nat × Cursor) :=
  match c.rest with
  | [] => .ok (0, c)
  | x :: _ =>
    if x == '0' then c.refuse "found an indentation indicator equal to 0"
    else if x.isDigit then .ok (x.toNat - 48, c.next)
    else .ok (0, c)

/-- Reads the chomping and the relative indentation of a block, in either order. An indentation
    of zero means that none is given. -/
def blockHeader (c : Cursor) : Except Malformed (Chomping × Nat × Cursor) :=
  match c.rest.head?.bind chomping? with
  | some ch =>
    match indentDigit c.next with
    | .error e => .error e
    | .ok (n, c) => .ok (ch, n, c)
  | none =>
    match indentDigit c with
    | .error e => .error e
    | .ok (n, c) =>
      if n = 0 then .ok (.clip, 0, c)
      else
        match c.rest.head?.bind chomping? with
        | some ch => .ok (ch, n, c.next)
        | none => .ok (.clip, n, c)

/-- Reads indentation and empty lines in front of a line of a block. An indentation of zero is
    not known yet; then the widest indentation that was seen is tracked. -/
def blockBreaks (indent : Nat) :
    Nat → Cursor → String → Nat → Except Malformed (String × Nat × Cursor)
  | 0, c, breaks, widest => .ok (breaks, widest, c)
  | fuel + 1, c, breaks, widest =>
    let spaces := (c.rest.takeWhile (· == ' ')).length
    let c := c.advance (if indent = 0 then spaces else min spaces (indent - c.column))
    let widest := max widest c.column
    if (indent = 0 || c.column < indent) && c.at? '\t' then
      c.refuse "found a tab character where an indentation space is expected"
    else if c.rest.isEmpty || !Cursor.breakAhead c.rest then .ok (breaks, widest, c)
    else blockBreaks indent fuel c.skipBreak (breaks ++ c.breakText) widest

/-- Reads the lines of a block. `before` is the line end before the line, `breaks` are the empty
    lines between, and `blankBefore` tells whether the last line began with a blank. -/
def blockLines (literal : Bool) (indent : Nat) :
    Nat → Cursor → String → String → String → Bool →
      Except Malformed (String × String × String × Cursor)
  | 0, c, text, before, breaks, _ => .ok (text, before, breaks, c)
  | fuel + 1, c, text, before, breaks, blankBefore =>
    if c.column ≠ indent || c.rest.isEmpty then .ok (text, before, breaks, c)
    else
      let blankHere := c.rest.head?.any isBlank
      let joint :=
        if !literal && !blankBefore && !blankHere && before = "\n" then
          if breaks = "" then " " else ""
        else before
      let line := c.rest.takeWhile (fun x => !isBreak x)
      let c := c.advance line.length
      let text := text ++ joint ++ breaks ++ String.ofList line
      let before := c.breakText
      match blockBreaks indent (c.remaining + 1) c.skipBreak "" 0 with
      | .error e => .error e
      | .ok (breaks, _, c) => blockLines literal indent fuel c text before breaks blankHere

/-- The text of a block whose lines have been read. -/
def chomped (ch : Chomping) (text before breaks : String) : String :=
  match ch with
  | .strip => text
  | .clip => text ++ before
  | .keep => text ++ before ++ breaks

/-- Reads a block of lines behind its sign. `parent` is the indentation of what the block belongs
    to, `-1` outside of everything. -/
def blockScalar (literal : Bool) (parent : Int) (c : Cursor) :
    Except Malformed (String × Cursor) :=
  match blockHeader c with
  | .error e => .error e
  | .ok (ch, increment, c) =>
    let c := c.skipWhile isBlank
    let c := if c.at? '#' then c.skipComment else c
    if !Cursor.breakAhead c.rest then c.refuse "did not find expected comment or line break"
    else
      let c := c.skipBreak
      let given := if increment = 0 then 0 else (max parent 0).toNat + increment
      match blockBreaks given (c.remaining + 1) c "" 0 with
      | .error e => .error e
      | .ok (breaks, widest, c) =>
        let indent := if given = 0 then max (max widest (parent + 1).toNat) 1 else given
        match blockLines literal indent (c.remaining + 1) c "" "" breaks false with
        | .error e => .error e
        | .ok (text, before, breaks, c) => .ok (chomped ch text before breaks, c)

end TaintSeed.Yaml
