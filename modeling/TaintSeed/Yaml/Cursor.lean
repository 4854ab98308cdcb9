import TaintSeed.Text.Bytes

/-!
# Places in a Text

A text is read from left to right, and what a character means depends on where
it stands: on its column, on whether the line so far is blank, and on the
character that follows. A cursor is a place in a text with all of this, so the
functions that read parts of a text take a cursor and give one back.

A line ends with a line feed, a carriage return or both, or with one of three
other characters that mean the same. The end of the text counts as a blank.

The text is taken up in portions of 512 bytes, each when it is first needed. A
character that must not stand in a text is an error only when its portion is
taken up, so what is wrong behind the part that is needed does no harm. Taking
up a portion also moves the window on the text: it begins where the cursor is
then. A window that begins with a byte order mark hides the first character of
each of its lines, which is how the mark itself is passed over.

## Main definitions

* `Yaml.Cursor`: A place in a text.
* `Yaml.Cursor.next`, `Yaml.Cursor.skipBreak`: The place behind a character or a line end.
* `Yaml.Cursor.look`: Takes up the portions with the next characters.
* `Yaml.Malformed`: Why a text is refused.
-/

namespace TaintSeed.Yaml

/-- Why a text is refused. -/
structure Malformed where
  /-- The line where the problem was found, counted from zero. -/
  line : Nat
  /-- The problem. -/
  problem : String
deriving DecidableEq, Inhabited

/-- The wording of the refusal. -/
def Malformed.message (e : Malformed) : String :=
  "yaml: line " ++ toString (e.line + 1) ++ ": " ++ e.problem

/-- Whether a character ends a line. -/
def isBreak (c : Char) : Bool :=
  c == '\r' || c == '\n' || c.toNat == 0x85 || c.toNat == 0x2028 || c.toNat == 0x2029

/-- Whether a character is a space or a tab. -/
def isBlank (c : Char) : Bool := c == ' ' || c == '\t'

/-- Whether a character may be part of a name. -/
def isNameChar (c : Char) : Bool := c.isAlphanum || c == '_' || c == '-'

/-- Whether a character may stand in a text at all. -/
def isAllowed (c : Char) : Bool :=
  let n := c.toNat
  n == 0x09 || n == 0x0A || n == 0x0D || (0x20 ≤ n && n ≤ 0x7E) || n == 0x85 ||
    (0xA0 ≤ n && n ≤ 0xD7FF) || (0xE000 ≤ n && n ≤ 0xFFFD) || 0x10000 ≤ n

/-- The sign for the order of bytes, which may stand before a text. -/
def byteOrderMark : Char := Char.ofNat 0xFEFF

/-- The number of bytes of a portion. -/
def portionSize : Nat := 512

/-- How a text falls into portions. -/
structure Portions where
  /-- The number of characters up to the end of each portion, the last one first. -/
  ends : List Nat
  /-- The number of characters so far. -/
  count : Nat
  /-- The number of bytes that still fit into the portion. -/
  room : Nat
  /-- Whether the portion has a character that must not stand in a text. -/
  isBad : Bool
deriving Inhabited

/-- Adds a character to the portion, or to the next one if it does not fit. Nothing is added
    behind a bad portion. -/
def Portions.push (p : Portions) (c : Char) : Portions :=
  let bad := !isAllowed c
  if c.utf8Size ≤ p.room then
    { p with count := p.count + 1, room := p.room - c.utf8Size, isBad := p.isBad || bad }
  else if p.isBad then p
  else ⟨p.count :: p.ends, p.count + 1, portionSize - c.utf8Size, bad⟩

/-- A place in a text. -/
structure Cursor where
  /-- The characters that follow. -/
  rest : List Char
  /-- The number of characters of the text. -/
  size : Nat
  /-- The number of characters before the place. -/
  index : Nat
  /-- The number of line ends before the place. -/
  line : Nat
  /-- The number of characters before the place in its line. -/
  column : Nat
  /-- Whether there are only blanks between the last line end and the place. -/
  afterBreak : Bool
  /-- The number of characters that have been taken up, the end of the text counted as more. -/
  taken : Nat
  /-- The numbers of characters up to the ends of the portions that follow. -/
  portions : List Nat
  /-- Whether a bad portion follows these; it is no part of the characters that follow. -/
  isCut : Bool
  /-- Whether the window begins with a byte order mark. -/
  isMarked : Bool
deriving Inhabited

namespace Cursor

/-- The beginning of a text. A byte order mark before it is no part of it. A byte that is part of
    no character must not stand in it. -/
def start (text : String) : Cursor :=
  let chars := if text.toList.head? == some byteOrderMark then text.toList.drop 1 else text.toList
  let room := if text.toList.head? == some byteOrderMark then portionSize - 3 else portionSize
  let p := chars.foldl Portions.push ⟨[], 0, room, !Text.Bytes.isProper text⟩
  let ends := if p.isBad || p.count == 0 then p.ends else p.count :: p.ends
  { rest := if p.isBad then chars.take (ends.headD 0) else chars
    size := ends.headD 0, index := 0, line := 0, column := 0, afterBreak := false
    taken := 0, portions := ends.reverse, isCut := p.isBad, isMarked := false }

/-- The number of characters that follow. -/
def remaining (c : Cursor) : Nat := c.size - c.index

/-- The character at a distance. -/
def peek? (c : Cursor) (n : Nat) : Option Char := c.rest[n]?

/-- Whether the next character is the given one. -/
def at? (c : Cursor) (x : Char) : Bool := c.rest.head? == some x

/-- Whether a list of characters begins with a blank or a line end, or is empty. -/
def gapAhead : List Char → Bool
  | [] => true
  | x :: _ => isBlank x || isBreak x

/-- Whether a list of characters begins with a line end, or is empty. -/
def breakAhead : List Char → Bool
  | [] => true
  | x :: _ => isBreak x

/-- Whether a blank, a line end or the end of the text follows at a distance. -/
def gapAt (c : Cursor) (n : Nat) : Bool := gapAhead (c.rest.drop n)

/-- The place behind the next character, which is not a line end. -/
def next (c : Cursor) : Cursor :=
  match c.rest with
  | [] => c
  | x :: xs =>
    { c with
      rest := xs
      index := c.index + 1
      column := c.column + 1
      afterBreak := isBlank x && c.afterBreak }

/-- The place behind several characters, none of which is a line end. -/
def advance (c : Cursor) : Nat → Cursor
  | 0 => c
  | n + 1 => c.next.advance n

/-- The place behind the characters that satisfy `p`, none of which is a line end. -/
def skipWhile (c : Cursor) (p : Char → Bool) : Cursor := c.advance (c.rest.takeWhile p).length

/-- The place behind the line end that follows, if one does. -/
def skipBreak (c : Cursor) : Cursor :=
  let behind (rest : List Char) (n : Nat) : Cursor :=
    { c with
      rest := rest, index := c.index + n, line := c.line + 1, column := 0, afterBreak := true }
  match c.rest with
  | '\r' :: '\n' :: xs => behind xs 2
  | x :: xs => if isBreak x then behind xs 1 else c
  | [] => c

/-- The line end that follows, as it is kept in a text; empty if none follows. -/
def breakText (c : Cursor) : String :=
  match c.rest with
  | [] => ""
  | x :: _ =>
    if isBreak x then
      if x.toNat == 0x2028 || x.toNat == 0x2029 then String.singleton x else "\n"
    else ""

/-- Whether a line with a mark between documents begins here: three dashes or three dots. -/
def atDocumentMark (c : Cursor) : Bool :=
  c.column == 0 &&
    match c.rest with
    | x :: y :: z :: xs => x == y && y == z && (x == '-' || x == '.') && gapAhead xs
    | _ => false

/-- Refuses the text because of what stands here. -/
def refuse {α : Type} (c : Cursor) (problem : String) : Except Malformed α :=
  .error ⟨c.line, problem⟩

/-- Takes up portions until `n` characters are there. Behind the last portion is the end of the
    text, or what must not stand in it. -/
def takeUp (n : Nat) : List Nat → Cursor → Except Malformed Cursor
  | [], c =>
    if c.isCut then c.refuse "control characters are not allowed"
    else .ok { c with taken := c.taken + 1, portions := [] }
  | p :: ps, c =>
    if c.index + n ≤ p then .ok { c with taken := p, portions := ps }
    else takeUp n ps { c with taken := p, portions := ps }

/-- Looks at the next `n` characters, which moves the window if not all of them are there. -/
def look (c : Cursor) (n : Nat) : Except Malformed Cursor :=
  if c.index + n ≤ c.taken then .ok c
  else takeUp n c.portions { c with isMarked := c.at? byteOrderMark }

/-- The place behind the comment that begins here, at the end of its line. -/
def skipComment (c : Cursor) : Cursor := c.skipWhile (fun x => !isBreak x)

end Cursor

end TaintSeed.Yaml
