import TaintSeed.Yaml.ScalarText

/-!
# Tags and Directives

A tag says what a node is meant to be. It is written with an exclamation mark:
alone, before a name, or around a handle that stands for the beginning of a
longer name; in angle brackets the whole name is given. Some characters are
written as their bytes, each a percent sign with two hexadecimal digits. The
bytes need not be those of a character.

Lines before a document declare handles, or the version of the format.

## Main definitions

* `Yaml.tagParts`: Reads a tag.
* `Yaml.versionNumbers`, `Yaml.handleParts`: Read what a directive says.
-/

namespace TaintSeed.Yaml

/-- Whether a character may stand in a tag. -/
def isTagChar (x : Char) : Bool := isNameChar x || ";/?:@&=+$,.!~*\x27()[]%".toList.contains x

/-- The number of bytes of a character, by the first of them. -/
def encodedLength (b : Nat) : Nat :=
  if b < 0x80 then 1
  else if 0xC0 ≤ b && b < 0xE0 then 2
  else if 0xE0 ≤ b && b < 0xF0 then 3
  else if 0xF0 ≤ b && b < 0xF8 then 4
  else 0

/-- Reads escaped bytes, each a percent sign and two hexadecimal digits. -/
def percentBytes : Nat → List Char → Option (List Nat)
  | 0, _ => some []
  | n + 1, '%' :: x :: y :: xs =>
    match hexValue? [x, y], percentBytes n xs with
    | some b, some bs => some (b :: bs)
    | _, _ => none
  | _ + 1, _ => none

/-- Reads the escaped bytes of one character. All but the first must continue it. -/
def percentChar? (cs : List Char) : Option (List Nat) :=
  match percentBytes 1 cs with
  | some [b] =>
    let n := encodedLength b
    if n = 0 then none
    else (percentBytes n cs).filter (fun bs => (bs.drop 1).all Text.Bytes.isTail)
  | _ => none

/-- Reads the bytes of a tag, in which a percent sign begins an escaped character. -/
def tagBytes (c : Cursor) : Nat → Cursor → List Nat → Except Malformed (List Nat × Cursor)
  | 0, d, bytes => .ok (bytes, d)
  | fuel + 1, d, bytes =>
    match d.rest with
    | [] => .ok (bytes, d)
    | x :: _ =>
      if x == '%' then
        match percentChar? d.rest with
        | some bs => tagBytes c fuel (d.advance (3 * bs.length)) (bytes ++ bs)
        | none => c.refuse "did not find URI escaped octet"
      else if isTagChar x then tagBytes c fuel d.next (bytes ++ [x.toNat])
      else .ok (bytes, d)

/-- Reads the text of a tag from `d` on, behind what has been read of it; `c` is where the tag
    begins. -/
def tagText (c d : Cursor) (head : String) : Except Malformed (String × Cursor) :=
  (tagBytes c (d.remaining + 1) d (Text.Bytes.ofText head)).map
    (fun r => (Text.Bytes.toText r.1, r.2))

/-- Reads a tag: its handle, perhaps empty, and what follows it. -/
def tagParts (c : Cursor) : Except Malformed (String × String × Cursor) :=
  if c.peek? 1 == some '<' then
    match tagText c (c.advance 2) "" with
    | .error e => .error e
    | .ok (text, d) =>
      if text = "" then c.refuse "did not find expected tag URI"
      else if d.at? '>' then .ok ("", text, d.next)
      else c.refuse "did not find the expected '>'"
  else
    let name := c.next.rest.takeWhile isNameChar
    let behind := c.advance (name.length + 1)
    if behind.at? '!' then
      match tagText c behind.next "" with
      | .error e => .error e
      | .ok (text, d) =>
        if text = "" then c.refuse "did not find expected tag URI"
        else .ok ("!" ++ String.ofList name ++ "!", text, d)
    else
      match tagText c behind (String.ofList name) with
      | .error e => .error e
      | .ok (text, d) => if text = "" then .ok ("", "!", d) else .ok ("!", text, d)

/-- Reads a number of at most two digits. -/
def versionNumber (c : Cursor) : Except Malformed (Nat × Cursor) :=
  let ds := c.rest.takeWhile Char.isDigit
  if ds.isEmpty then c.refuse "did not find expected version number"
  else if 2 < ds.length then c.refuse "found extremely long version number"
  else .ok (ds.foldl (fun n d => 10 * n + (d.toNat - 48)) 0, c.advance ds.length)

/-- Reads the two numbers of a version. -/
def versionNumbers (c : Cursor) : Except Malformed (Nat × Nat × Cursor) :=
  match versionNumber (c.skipWhile isBlank) with
  | .error e => .error e
  | .ok (major, c) =>
    if c.at? '.' then
      match versionNumber c.next with
      | .error e => .error e
      | .ok (minor, c) => .ok (major, minor, c)
    else c.refuse "did not find expected digit or '.' character"

/-- Reads a handle for tags and what it stands for. -/
def handleParts (c : Cursor) : Except Malformed (String × String × Cursor) :=
  let c := c.skipWhile isBlank
  if c.at? '!' then
    let name := c.next.rest.takeWhile isNameChar
    let behind := c.advance (name.length + 1)
    let isClosed := behind.at? '!'
    if !isClosed && !name.isEmpty then c.refuse "did not find expected '!'"
    else
      let handle := "!" ++ String.ofList name ++ (if isClosed then "!" else "")
      let c := if isClosed then behind.next else behind
      if c.rest.head?.any isBlank then
        let c := c.skipWhile isBlank
        match tagText c c "" with
        | .error e => .error e
        | .ok (text, d) =>
          if text = "" then c.refuse "did not find expected tag URI"
          else if d.gapAt 0 then .ok (handle, text, d)
          else d.refuse "did not find expected whitespace or line break"
      else c.refuse "did not find expected whitespace"
  else c.refuse "did not find expected '!'"

end TaintSeed.Yaml
