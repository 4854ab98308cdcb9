import TaintSeed.Yaml.TagText
import TaintSeed.Yaml.Token

/-!
# The Tokens of a Text

A text is cut into tokens from left to right, and no further than a reader of
the tokens needs. Two things make this more than cutting. The indentation opens
and closes blocks, so the scanner keeps the columns of the open ones. And
whether a scalar is a key shows only when the colon behind it is reached, so
the scanner remembers where a key may have begun, and marks it there
afterwards. A key must be on one line with its colon and not longer than 1024
characters.

The tokens that were cut but not read wait in a queue. A reader sees a token
only when two more are behind it and when it is settled whether the token
begins a key: for that, the scanner lists the tokens whose fate is still open.
The list and the places of the keys are kept apart. When a bracket closes in
which no key may have begun, its own token is struck off the list, though it
may still be the beginning of a key. A reader can then be ahead of the colon,
and the mark for the key comes behind the tokens that are waiting.

## Main definitions

* `Yaml.KeyPlace`: A place where a key may have begun.
* `Yaml.Scanner`: The state between two tokens.
* `Yaml.Scanner.fetch`: Cuts the next token.
* `Yaml.Scanner.settle`: Cuts as many tokens as a reader needs to see the next one.
* `Yaml.Scanner.drop`: Takes the next token from the queue.
-/

namespace TaintSeed.Yaml

/-- A place where a key may have begun. -/
structure KeyPlace where
  /-- Whether a key may still turn out to begin there. -/
  isPossible : Bool
  /-- Whether a key must begin there, because of the indentation. -/
  isRequired : Bool
  /-- The number of the token that begins there. -/
  token : Nat
  /-- The place, in characters. -/
  index : Nat
  /-- The line. -/
  line : Nat
  /-- The column. -/
  column : Nat
deriving DecidableEq, Inhabited

/-- No place. -/
def KeyPlace.none : KeyPlace := ⟨false, false, 0, 0, 0, 0⟩

/-- The state of the scanner. -/
structure Scanner where
  /-- The place in the text. -/
  cursor : Cursor
  /-- The tokens that were cut but not read, the next one first. -/
  queue : Array Token
  /-- The number of tokens that were read. -/
  taken : Nat
  /-- The column of the innermost open block, `-1` if none is open. -/
  indent : Int
  /-- The columns of the blocks around it. -/
  indents : List Int
  /-- Where a key may have begun in the innermost bracket. -/
  key : KeyPlace
  /-- The same for the brackets around it, the outermost first; as many as brackets are open. -/
  outerKeys : Array KeyPlace
  /-- The tokens that may begin a key, each with the number of brackets around it. -/
  awaited : List (Nat × Nat)
  /-- Whether a key may begin here. -/
  keyAllowed : Bool
deriving Inhabited

namespace Scanner

/-- The most brackets, and the most blocks, that may be open at a time. -/
def maxDepth : Nat := 10000

/-- The scanner before the first token. -/
def start (text : String) : Scanner :=
  ⟨Cursor.start text, #[], 0, -1, [], .none, #[], [], true⟩

/-- Whether the place is inside brackets or braces. -/
def inFlow (s : Scanner) : Bool := !s.outerKeys.isEmpty

/-- Refuses the text because of what stands here. -/
def refuse {α : Type} (s : Scanner) (problem : String) : Except Malformed α :=
  s.cursor.refuse problem

/-- The number of the token that is cut next. -/
def nextToken (s : Scanner) : Nat := s.taken + s.queue.size

/-- Adds a token that begins and ends on the present line. -/
def push (s : Scanner) (k : TokenKind) : Scanner :=
  { s with queue := s.queue.push ⟨k, s.cursor.line, s.cursor.line⟩ }

/-- Adds a token before the one with the given number. If that one was read already, the new
    token comes last. -/
def insert (s : Scanner) (number : Nat) (t : Token) : Scanner :=
  if number < s.taken then { s with queue := s.queue.push t }
  else { s with queue := s.queue.insertIdxIfInBounds (number - s.taken) t }

/-- Takes the next token from the queue. -/
def drop (s : Scanner) : Scanner := { s with queue := s.queue.drop 1, taken := s.taken + 1 }

/-- Strikes a token off the list of those that may begin a key. -/
def strike (s : Scanner) (token : Nat) : Scanner :=
  { s with awaited := s.awaited.filter (fun a => a.1 != token) }

/-- Skips comments: one that begins here and those on the lines behind it, with the blank lines
    between them. The next comment is looked for among 511 characters that a byte can hold. -/
def skipComments : Nat → Cursor → Cursor
  | 0, c => c
  | fuel + 1, c =>
    let c := c.skipComment
    let isGap (x : Char) : Bool := isBlank x || (isBreak x && x.toNat < 0x80)
    let between := (c.rest.take 511).takeWhile isGap
    if (c.rest.drop between.length).head? == some '#' then
      skipComments fuel (skipGap between.length c)
    else c
where
  /-- Skips blanks and line ends up to a sharp sign. -/
  skipGap : Nat → Cursor → Cursor
    | 0, c => c
    | n + 1, c =>
      match c.rest with
      | [] => c
      | x :: _ =>
        if isBlank x then skipGap n c.next
        else if isBreak x then skipGap n c.skipBreak
        else c

/-- Skips blanks, comments and line ends up to the next token. Behind a line end, a key may begin
    again. Tabs are no blanks where a key may begin. -/
def skipToToken : Nat → Scanner → Except Malformed Scanner
  | 0, s => .ok s
  | fuel + 1, s =>
    match s.cursor.look 1 with
    | .error e => .error e
    | .ok c =>
      let c := if c.column == 0 && c.isMarked then c.next else c
      let c := c.skipWhile (fun x => x == ' ' || (x == '\t' && (s.inFlow || !s.keyAllowed)))
      let c := if c.at? '#' then skipComments (c.remaining + 1) c else c
      if !c.rest.isEmpty && Cursor.breakAhead c.rest then
        skipToToken fuel
          { s with cursor := c.skipBreak, keyAllowed := s.keyAllowed || !s.inFlow }
      else .ok { s with cursor := c }

/-- Skips a comment on the line where a token has ended, behind less than 512 blanks. -/
def skipLineComment (s : Scanner) : Scanner :=
  let blanks := s.cursor.rest.takeWhile isBlank
  let c := s.cursor.advance blanks.length
  if !s.cursor.afterBreak && blanks.length < 512 && c.at? '#' then
    { s with cursor := c.skipComment }
  else s

/-- Closes the blocks that begin to the right of a column. -/
def closeBlocks (column : Int) : List Int → Scanner → Scanner
  | [], s => s
  | outer :: rest, s =>
    if column < s.indent then
      closeBlocks column rest ({ s with indent := outer, indents := rest }.push .blockEnd)
    else s

/-- Closes the blocks that begin to the right of a column; in brackets, indentation has no
    meaning. -/
def unindent (s : Scanner) (column : Int) : Scanner :=
  if s.inFlow then s else closeBlocks column s.indents s

/-- Opens a block at a column, unless the innermost one begins there. The mark for its beginning
    is put before the token with the given number. -/
def openBlock (s : Scanner) (column line number : Nat) (k : TokenKind) :
    Except Malformed Scanner :=
  if !s.inFlow && s.indent < column then
    if maxDepth ≤ s.indents.length then s.refuse "exceeded max depth of 10000"
    else
      .ok { s.insert number ⟨k, line, line⟩ with
        indent := column, indents := s.indent :: s.indents }
  else .ok s

/-- Gives up that a key began at the place; it is an error if a key must have. -/
def dropKey (s : Scanner) : Except Malformed Scanner :=
  if s.key.isPossible then
    if s.key.isRequired then s.refuse "could not find expected ':'"
    else .ok ({ s with key := { s.key with isPossible := false } }.strike s.key.token)
  else .ok s

/-- Remembers that a key may begin with the next token. -/
def markKey (s : Scanner) : Except Malformed Scanner :=
  if s.keyAllowed then
    let c := s.cursor
    -- What begins where the keys of the block begin can be nothing but a key.
    let required := !s.inFlow && s.indent == c.column
    match s.dropKey with
    | .error e => .error e
    | .ok s =>
      let n := s.nextToken
      -- Tokens that were read are never asked for again.
      let others := s.awaited.filter (fun a => a.1 != n && s.taken ≤ a.1)
      .ok { s with
        key := ⟨true, required, n, c.index, c.line, c.column⟩
        awaited := (n, s.outerKeys.size) :: others }
  else .ok s

/-- Whether a key that may have begun is still on its line and short enough. -/
def isLive (s : Scanner) (k : KeyPlace) : Bool :=
  k.isPossible && k.line == s.cursor.line && s.cursor.index ≤ k.index + 1024

/-- The end of the text, which counts as the beginning of a line. -/
def fetchEnd (s : Scanner) : Except Malformed Scanner :=
  let c := s.cursor
  let c := if c.column == 0 then c else { c with column := 0, line := c.line + 1 }
  let s := { s with cursor := c }
  match (s.unindent (-1)).dropKey with
  | .error e => .error e
  | .ok s => .ok ({ s with keyAllowed := false }.push .streamEnd)

/-- A mark between documents. -/
def fetchDocumentMark (s : Scanner) : Except Malformed Scanner :=
  match (s.unindent (-1)).dropKey with
  | .error e => .error e
  | .ok s =>
    let k := if s.cursor.at? '-' then TokenKind.documentStart else .documentEnd
    .ok { s.push k with keyAllowed := false, cursor := s.cursor.advance 3 }

/-- An opening bracket or brace. -/
def fetchFlowStart (s : Scanner) (k : TokenKind) : Except Malformed Scanner :=
  match s.markKey with
  | .error e => .error e
  | .ok s =>
    if maxDepth ≤ s.outerKeys.size then s.refuse "exceeded max depth of 10000"
    else
      .ok { s.push k with
        -- As long as no key begins inside, the place is that of the bracket.
        key := { KeyPlace.none with token := s.nextToken }
        outerKeys := s.outerKeys.push s.key
        keyAllowed := true
        cursor := s.cursor.next }

/-- A closing bracket or brace. -/
def fetchFlowEnd (s : Scanner) (k : TokenKind) : Except Malformed Scanner :=
  match s.dropKey with
  | .error e => .error e
  | .ok s =>
    let s :=
      match s.outerKeys.back? with
      | none => s
      | some outer => { s.strike s.key.token with key := outer, outerKeys := s.outerKeys.pop }
    .ok { s.push k with keyAllowed := false, cursor := s.cursor.next }

/-- A comma. -/
def fetchFlowEntry (s : Scanner) : Except Malformed Scanner :=
  match s.dropKey with
  | .error e => .error e
  | .ok s => .ok { s.push .flowEntry with keyAllowed := true, cursor := s.cursor.next }

/-- The dash before an entry. -/
def fetchBlockEntry (s : Scanner) : Except Malformed Scanner :=
  if !s.inFlow && !s.keyAllowed then
    s.refuse "block sequence entries are not allowed in this context"
  else
    let c := s.cursor
    match s.openBlock c.column c.line s.nextToken .blockSequenceStart >>= dropKey with
    | .error e => .error e
    | .ok s => .ok { s.push .blockEntry with keyAllowed := true, cursor := c.next }

/-- The question mark before a key. -/
def fetchKey (s : Scanner) : Except Malformed Scanner :=
  if !s.inFlow && !s.keyAllowed then s.refuse "mapping keys are not allowed in this context"
  else
    let c := s.cursor
    match s.openBlock c.column c.line s.nextToken .blockMappingStart >>= dropKey with
    | .error e => .error e
    | .ok s => .ok { s.push .key with keyAllowed := !s.inFlow, cursor := c.next }

/-- The colon before a value. If a key may have begun before it, one has. -/
def fetchValue (s : Scanner) : Except Malformed Scanner :=
  let c := s.cursor
  let k := s.key
  let behind (s : Scanner) : Scanner := { s.push .value with cursor := c.next }
  if s.isLive k then
    -- The mark goes before the tokens of the key, which are there already.
    let s := s.insert k.token ⟨.key, k.line, k.line⟩
    match s.openBlock k.column k.line k.token .blockMappingStart with
    | .error e => .error e
    | .ok s =>
      .ok (behind ({ s with
        key := { k with isPossible := false }, keyAllowed := false }.strike k.token))
  else if k.isPossible && k.isRequired then s.refuse "could not find expected ':'"
  else
    let s := { s with key := { k with isPossible := false } }
    if s.inFlow then .ok (behind { s with keyAllowed := false })
    else if s.keyAllowed then
      (s.openBlock c.column c.line s.nextToken .blockMappingStart).map behind
    else s.refuse "mapping values are not allowed in this context"

/-- Whether a character may follow the name of an anchor. -/
def endsName : List Char → Bool
  | [] => true
  | x :: xs => Cursor.gapAhead (x :: xs) || "?:,]\x7d%@\x60".toList.contains x

/-- A name behind a sign, for a node or for a reference to one. -/
def fetchName (s : Scanner) (k : String → TokenKind) : Except Malformed Scanner :=
  match s.markKey with
  | .error e => .error e
  | .ok s =>
    let c := s.cursor.next
    let name := c.rest.takeWhile isNameChar
    let behind := c.advance name.length
    if name.isEmpty || !endsName behind.rest then
      s.refuse "did not find expected alphabetic or numeric character"
    else .ok { s.push (k (String.ofList name)) with keyAllowed := false, cursor := behind }

/-- A tag. -/
def fetchTag (s : Scanner) : Except Malformed Scanner :=
  match s.markKey with
  | .error e => .error e
  | .ok s =>
    match tagParts s.cursor with
    | .error e => .error e
    | .ok (handle, suffix, c) =>
      if c.gapAt 0 then .ok { s.push (.tag handle suffix) with keyAllowed := false, cursor := c }
      else s.refuse "did not find expected whitespace or line break"

/-- A block of lines. -/
def fetchBlockScalar (s : Scanner) (literal : Bool) : Except Malformed Scanner :=
  match s.dropKey with
  | .error e => .error e
  | .ok s =>
    match blockScalar literal s.indent s.cursor.next with
    | .error e => .error e
    | .ok (text, c) => .ok { s.push (.scalar text false) with keyAllowed := true, cursor := c }

/-- A scalar between quotes. -/
def fetchQuoted (s : Scanner) (quote : Char) : Except Malformed Scanner :=
  match s.markKey with
  | .error e => .error e
  | .ok s =>
    match quotedScalar quote (s.cursor.remaining + 1) s.cursor.next "" with
    | .error e => .error e
    | .ok (text, c) => .ok { s.push (.scalar text false) with keyAllowed := false, cursor := c }

/-- A plain scalar. A line end behind it allows a key. -/
def fetchPlain (s : Scanner) : Except Malformed Scanner :=
  match s.markKey with
  | .error e => .error e
  | .ok s =>
    match plainScalar s.inFlow (s.indent + 1) (s.cursor.remaining + 1) s.cursor "" Gap.none with
    | .error e => .error e
    | .ok (text, c, sawBreak) =>
      .ok { s.push (.scalar text true) with keyAllowed := sawBreak, cursor := c }

/-- Reads the name of a directive and what it says. -/
def directive (s : Scanner) : Except Malformed (TokenKind × Cursor) :=
  let c := s.cursor.next
  let name := c.rest.takeWhile isNameChar
  let behind := c.advance name.length
  if name.isEmpty then s.refuse "could not find expected directive name"
  else if !behind.gapAt 0 then s.refuse "found unexpected non-alphabetical character"
  else if name = "YAML".toList then
    (versionNumbers behind).map (fun v => (.version v.1 v.2.1, v.2.2))
  else if name = "TAG".toList then
    (handleParts behind).map (fun h => (.tagHandle h.1 h.2.1, h.2.2))
  else s.refuse "found unknown directive name"

/-- A line about the text as a whole: the version of the format, or a handle for tags. -/
def fetchDirective (s : Scanner) : Except Malformed Scanner :=
  match (s.unindent (-1)).dropKey with
  | .error e => .error e
  | .ok s =>
    match s.directive with
    | .error e => .error e
    | .ok (k, c) =>
      let c := c.skipWhile isBlank
      let c := if c.at? '#' then c.skipComment else c
      if Cursor.breakAhead c.rest then
        .ok { s.push k with keyAllowed := false, cursor := c.skipBreak }
      else s.refuse "did not find expected comment or line break"

/-- Whether a plain scalar may begin with a character. -/
def beginsPlain (inFlow : Bool) (x : Char) (rest : List Char) : Bool :=
  if x == '-' then !(rest.head?.any isBlank)
  else if x == '?' || x == ':' then !inFlow && !Cursor.gapAhead rest
  else !(",[]\x7b\x7d#&*!|>\x27\x22%@\x60".toList.contains x) && !Cursor.gapAhead (x :: rest)

/-- Reads the token that begins with the character `x`. -/
def fetchContent (s : Scanner) (x : Char) (rest : List Char) : Except Malformed Scanner :=
  if x == '[' then s.fetchFlowStart .flowSequenceStart
  else if x == '{' then s.fetchFlowStart .flowMappingStart
  else if x == ']' then s.fetchFlowEnd .flowSequenceEnd
  else if x == '}' then s.fetchFlowEnd .flowMappingEnd
  else if x == ',' then s.fetchFlowEntry
  else if x == '-' && Cursor.gapAhead rest then s.fetchBlockEntry
  else if x == '?' && (s.inFlow || Cursor.gapAhead rest) then s.fetchKey
  else if x == ':' && (s.inFlow || Cursor.gapAhead rest) then s.fetchValue
  else if x == '*' then s.fetchName .alias
  else if x == '&' then s.fetchName .anchor
  else if x == '!' then s.fetchTag
  else if x == '|' && !s.inFlow then s.fetchBlockScalar true
  else if x == '>' && !s.inFlow then s.fetchBlockScalar false
  else if x == '\x27' || x == '\x22' then s.fetchQuoted x
  else if beginsPlain s.inFlow x rest then s.fetchPlain
  else s.refuse "found character that cannot start any token"

/-- Notes the line where the last token ends, and skips a comment behind it. Behind the dash of
    an entry a comment belongs to what follows. A token that reaches to a part of the text that
    cannot be taken up is not complete. -/
def finish (s : Scanner) : Except Malformed Scanner :=
  match s.queue.back? with
  | none => .ok s
  | some t =>
    let s := { s with queue := s.queue.pop.push { t with endLine := s.cursor.line } }
    let isScalar := match t.kind with | .scalar _ _ => true | _ => false
    if s.cursor.isCut && isScalar && s.cursor.remaining < 2 then
      s.refuse "control characters are not allowed"
    else if t.kind == .blockEntry then .ok s
    else .ok s.skipLineComment

/-- Cuts the next token. -/
def fetch (s : Scanner) : Except Malformed Scanner :=
  match skipToToken (s.cursor.remaining + 1) s with
  | .error e => .error e
  | .ok s =>
    let s := s.unindent s.cursor.column
    match s.cursor.look 4 with
    | .error e => .error e
    | .ok c =>
      let s := { s with cursor := c }
      match c.rest with
      | [] => s.fetchEnd
      | x :: rest =>
        if c.column == 0 && x == '%' then s.fetchDirective
        else if c.atDocumentMark then s.fetchDocumentMark
        else s.fetchContent x rest >>= finish

/-- The place of the key that a token may begin, by the number of brackets around it. -/
def keyAt? (s : Scanner) (brackets : Nat) : Option KeyPlace :=
  if brackets = s.outerKeys.size then some s.key else s.outerKeys[brackets]?

/-- Gives up that a key began at the place inside of so many brackets. -/
def giveUp (s : Scanner) (brackets : Nat) : Scanner :=
  let forget (k : KeyPlace) : KeyPlace := { k with isPossible := false }
  if brackets = s.outerKeys.size then { s with key := forget s.key }
  else { s with outerKeys := s.outerKeys.modify brackets forget }

/-- Whether more tokens must be cut before a reader may see the next one. A place where it turns
    out that no key begins is given up. -/
def needsMore (s : Scanner) : Except Malformed (Bool × Scanner) :=
  if s.queue.size ≤ 2 then .ok (true, s)
  else
    match (s.awaited.find? (fun a => a.1 == s.taken)).bind
        (fun a => (s.keyAt? a.2).map (fun k => (a.2, k))) with
    | none => .ok (false, s)
    | some (brackets, k) =>
      if s.isLive k then .ok (true, s)
      else if k.isPossible && k.isRequired then s.refuse "could not find expected ':'"
      else .ok (false, s.giveUp brackets)

/-- Cuts tokens until a reader may see the next one. -/
def settleWithin : Nat → Scanner → Except Malformed Scanner
  | 0, s => .ok s
  | fuel + 1, s =>
    match s.needsMore with
    | .error e => .error e
    | .ok (false, s) => .ok s
    | .ok (true, s) =>
      match s.fetch with
      | .error e => .error e
      | .ok s => settleWithin fuel s

/-- Cuts as many tokens as a reader needs to see the next one. Each takes a character from the
    text, apart from the mark for its end, which can be cut any number of times. -/
def settle (s : Scanner) : Except Malformed Scanner :=
  settleWithin (s.cursor.remaining + 4) s

end Scanner

end TaintSeed.Yaml
