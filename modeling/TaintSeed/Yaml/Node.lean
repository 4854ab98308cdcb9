import TaintSeed.Yaml.Plain
import TaintSeed.Yaml.Scanner

/-!
# Documents

A document is a tree of scalars, lists and mappings. A node may be given a name
and referred to elsewhere, even from inside itself, so a reference holds the
number of the named node and the document holds the list of these nodes.

The tree is read off the tokens by descent, and tokens are only cut from the
text as they are needed: what is behind the first document may be anything.
Every step takes a token or ends a level, which bounds the number of steps by
the number of tokens, and that by the length of the text.

## Main definitions

* `Yaml.Node`: A scalar, a list, a mapping or a reference.
* `Yaml.Document`: A node with the nodes that are referred to.
* `Yaml.Document.ofText`: The first document of a text.
-/

namespace TaintSeed.Yaml

/-- A node of a document. Each has the line where it begins, counted from one. -/
inductive Node where
  /-- A text with its tag. -/
  | scalar (line : Nat) (tag value : String)
  /-- A list. -/
  | sequence (line : Nat) (tag : String) (items : List Node)
  /-- Keys with their values. -/
  | mapping (line : Nat) (tag : String) (entries : List (Node × Node))
  /-- A reference to a named node, with a number of its own. -/
  | alias (line : Nat) (name : String) (target serial : Nat)
deriving Inhabited

/-- A document. -/
structure Document where
  /-- The whole of it; nothing if the text has no document. -/
  root? : Option Node
  /-- The named nodes. -/
  anchored : Array Node
  /-- A number that no list and no nesting in the document exceeds. -/
  size : Nat
deriving Inhabited

namespace Document

/-- The state of a reader of tokens. -/
structure Reader where
  /-- The tokens that follow. -/
  scanner : Scanner
  /-- The handles for tags with what they stand for. -/
  handles : List (String × String)
  /-- The numbers of the named nodes, the last name first. -/
  names : List (String × Nat)
  /-- The named nodes. -/
  anchored : Array Node
  /-- The number of references so far. -/
  aliases : Nat
deriving Inhabited

/-- A step of reading: it may fail, and it moves on in the tokens. -/
abbrev Step := StateT Reader (Except Malformed)

/-- The next token. -/
def peek : Step Token := do
  let r ← get
  match r.scanner.settle with
  | .error e => throw e
  | .ok scanner =>
    set { r with scanner := scanner }
    pure (scanner.queue[0]?.getD ⟨.streamEnd, 0, 0⟩)

/-- Moves behind the next token. -/
def skip : Step Unit := modify (fun r => { r with scanner := r.scanner.drop })

/-- Refuses the text at a token. -/
def refuse {α : Type} (t : Token) (problem : String) : Step α := throw ⟨t.line, problem⟩

/-- The part of the tags of this format that is written as two exclamation marks. -/
def longTag : String := "tag:yaml.org,2002:"

/-- A tag in its short form. -/
def shortTag (tag : String) : String :=
  if longTag.toList.isPrefixOf tag.toList then
    "!!" ++ String.ofList (tag.toList.drop longTag.toList.length)
  else tag

/-- The tag of a node: the one that is given, or else the usual one. -/
def tagOf (given usual : String) : String :=
  if given = "" || given = "!" then usual else shortTag given

/-- The scalar for something that is left out. -/
def omitted (line : Nat) : Node := .scalar (line + 1) "!!null" ""

/-- The tag of a scalar. -/
def scalarTag (given text : String) (isPlain : Bool) : String :=
  tagOf given (if isPlain then (if text = "<<" then "!!merge" else (Meaning.ofText text).tag)
    else "!!str")

/-- Gives a name to the node that is read next, and its number. -/
def declare (name : String) : Step (Option Nat) := do
  if name = "" then pure none
  else
    let r ← get
    let n := r.anchored.size
    set { r with names := (name, n) :: r.names, anchored := r.anchored.push default }
    pure (some n)

/-- Records a named node. -/
def record (number? : Option Nat) (node : Node) : Step Node := do
  match number? with
  | none => pure ()
  | some n => modify (fun r => { r with anchored := r.anchored.setIfInBounds n node })
  pure node

/-- The name and the tag before a node. -/
structure Properties where
  /-- The line where the node begins. -/
  line : Nat
  /-- The name, empty if there is none. -/
  anchor : String
  /-- The tag, empty if there is none. -/
  tag : String
deriving Inhabited

/-- A tag written with a handle. -/
def expandTag (t : Token) (handle suffix : String) : Step String := do
  if handle = "" then pure suffix
  else
    match (← get).handles.find? (fun h => h.1 == handle) with
    | some h => pure (h.2 ++ suffix)
    | none => refuse t "found undefined tag handle"

/-- Reads the name and the tag before a node, in either order. -/
def properties : Step Properties := do
  let first ← peek
  match first.kind with
  | .anchor name =>
    skip
    let second ← peek
    match second.kind with
    | .tag handle suffix =>
      skip
      let _ ← peek
      pure ⟨first.line, name, ← expandTag first handle suffix⟩
    | _ => pure ⟨first.line, name, ""⟩
  | .tag handle suffix =>
    skip
    let second ← peek
    match second.kind with
    | .anchor name =>
      skip
      let _ ← peek
      pure ⟨first.line, name, ← expandTag first handle suffix⟩
    | _ => pure ⟨first.line, "", ← expandTag first handle suffix⟩
  | _ => pure ⟨first.line, "", ""⟩

/-- Reads a reference. -/
def aliasNode (t : Token) (name : String) : Step Node := do
  skip
  let r ← get
  match r.names.find? (fun n => n.1 == name) with
  | none => refuse t ("unknown anchor '" ++ name ++ "' referenced")
  | some n =>
    set { r with aliases := r.aliases + 1 }
    pure (.alias (t.line + 1) name n.2 r.aliases)

mutual

/-- Reads a node. Indented lists and mappings are allowed in a block, and lists that are not
    indented where `indentless` says so. -/
def node (fuel : Nat) (block indentless : Bool) : Step Node := do
  match fuel with
  | 0 => refuse (← peek) "too deeply nested"
  | fuel + 1 =>
    let first ← peek
    match first.kind with
    | .alias name => aliasNode first name
    | _ =>
      let p ← properties
      let t ← peek
      let line := p.line + 1
      let sequenceNode (items : Step (List Node)) : Step Node := do
        let number? ← declare p.anchor
        record number? (.sequence line (tagOf p.tag "!!seq") (← items))
      let mappingNode (entries : Step (List (Node × Node))) : Step Node := do
        let number? ← declare p.anchor
        record number? (.mapping line (tagOf p.tag "!!map") (← entries))
      let scalarNode (text : String) (isPlain : Bool) : Step Node := do
        let number? ← declare p.anchor
        record number? (.scalar line (scalarTag p.tag text isPlain) text)
      match t.kind with
      | .blockEntry =>
        if indentless then sequenceNode (indentlessItems fuel)
        else if p.anchor ≠ "" || p.tag ≠ "" then scalarNode "" true
        else refuse t "did not find expected node content"
      | .scalar text isPlain => skip; scalarNode text isPlain
      | .flowSequenceStart => skip; sequenceNode (flowItems fuel true)
      | .flowMappingStart => skip; mappingNode (flowEntries fuel true)
      | .blockSequenceStart =>
        if block then skip; sequenceNode (blockItems fuel)
        else if p.anchor ≠ "" || p.tag ≠ "" then scalarNode "" true
        else refuse t "did not find expected node content"
      | .blockMappingStart =>
        if block then skip; mappingNode (blockEntries fuel)
        else if p.anchor ≠ "" || p.tag ≠ "" then scalarNode "" true
        else refuse t "did not find expected node content"
      | _ =>
        if p.anchor ≠ "" || p.tag ≠ "" then scalarNode "" true
        else refuse t "did not find expected node content"

/-- Reads the items of an indented list. -/
def blockItems (fuel : Nat) : Step (List Node) := do
  match fuel with
  | 0 => refuse (← peek) "too many entries"
  | fuel + 1 =>
    let t ← peek
    match t.kind with
    | .blockEntry =>
      skip
      let item ←
        match (← peek).kind with
        | .blockEntry => pure (omitted t.endLine)
        | .blockEnd => pure (omitted t.endLine)
        | _ => node fuel true false
      pure (item :: (← blockItems fuel))
    | .blockEnd => skip; pure []
    | _ => refuse t "did not find expected '-' indicator"

/-- Reads the items of a list that is not indented. -/
def indentlessItems (fuel : Nat) : Step (List Node) := do
  match fuel with
  | 0 => refuse (← peek) "too many entries"
  | fuel + 1 =>
    let t ← peek
    match t.kind with
    | .blockEntry =>
      skip
      let item ←
        match (← peek).kind with
        | .blockEntry => pure (omitted t.endLine)
        | .key => pure (omitted t.endLine)
        | .value => pure (omitted t.endLine)
        | .blockEnd => pure (omitted t.endLine)
        | _ => node fuel true false
      pure (item :: (← indentlessItems fuel))
    | _ => pure []

/-- Reads the entries of an indented mapping. -/
def blockEntries (fuel : Nat) : Step (List (Node × Node)) := do
  match fuel with
  | 0 => refuse (← peek) "too many entries"
  | fuel + 1 =>
    let t ← peek
    match t.kind with
    | .key =>
      skip
      let key ←
        match (← peek).kind with
        | .key => pure (omitted t.endLine)
        | .value => pure (omitted t.endLine)
        | .blockEnd => pure (omitted t.endLine)
        | _ => node fuel true true
      let value ← blockValue fuel
      pure ((key, value) :: (← blockEntries fuel))
    | .blockEnd => skip; pure []
    | _ => refuse t "did not find expected key"

/-- Reads the value of an entry of an indented mapping. -/
def blockValue (fuel : Nat) : Step Node := do
  match fuel with
  | 0 => refuse (← peek) "too deeply nested"
  | fuel + 1 =>
    let t ← peek
    match t.kind with
    | .value =>
      skip
      match (← peek).kind with
      | .key => pure (omitted t.endLine)
      | .value => pure (omitted t.endLine)
      | .blockEnd => pure (omitted t.endLine)
      | _ => node fuel true true
    | _ => pure (omitted t.line)

/-- Reads the items of a list in brackets. An item may be a single key with its value. -/
def flowItems (fuel : Nat) (first : Bool) : Step (List Node) := do
  match fuel with
  | 0 => refuse (← peek) "too many entries"
  | fuel + 1 =>
    let t ← peek
    if t.kind == .flowSequenceEnd then skip; pure []
    else
      if !first then
        if t.kind == .flowEntry then skip
        else refuse t "did not find expected ',' or ']'"
      let t ← peek
      match t.kind with
      | .flowSequenceEnd => skip; pure []
      | .key =>
        skip
        let item ← singlePair fuel t.line
        pure (item :: (← flowItems fuel false))
      | _ =>
        let item ← node fuel false false
        pure (item :: (← flowItems fuel false))

/-- Reads a mapping of a single key inside of brackets. Where the key is left out, so is the
    value. -/
def singlePair (fuel : Nat) (line : Nat) : Step Node := do
  match fuel with
  | 0 => refuse (← peek) "too deeply nested"
  | fuel + 1 =>
    let t ← peek
    let key ←
      match t.kind with
      | .value => skip; pure (omitted t.endLine)
      | .flowEntry => skip; pure (omitted t.endLine)
      | .flowSequenceEnd => skip; pure (omitted t.endLine)
      | _ => node fuel false false
    let t ← peek
    let value ←
      match t.kind with
      | .value =>
        skip
        let t ← peek
        match t.kind with
        | .flowEntry => pure (omitted t.line)
        | .flowSequenceEnd => pure (omitted t.line)
        | _ => node fuel false false
      | _ => pure (omitted t.line)
    pure (.mapping (line + 1) "!!map" [(key, value)])

/-- Reads the entries of a mapping in braces. -/
def flowEntries (fuel : Nat) (first : Bool) : Step (List (Node × Node)) := do
  match fuel with
  | 0 => refuse (← peek) "too many entries"
  | fuel + 1 =>
    let t ← peek
    if t.kind == .flowMappingEnd then skip; pure []
    else
      if !first then
        if t.kind == .flowEntry then skip
        else refuse t "did not find expected ',' or '\x7d'"
      let t ← peek
      match t.kind with
      | .flowMappingEnd => skip; pure []
      | .key =>
        skip
        let t ← peek
        let key ←
          match t.kind with
          | .value => pure (omitted t.line)
          | .flowEntry => pure (omitted t.line)
          | .flowMappingEnd => pure (omitted t.line)
          | _ => node fuel false false
        let value ← flowValue fuel
        pure ((key, value) :: (← flowEntries fuel false))
      | _ =>
        let key ← node fuel false false
        let t ← peek
        pure ((key, omitted t.line) :: (← flowEntries fuel false))

/-- Reads the value of an entry in braces. -/
def flowValue (fuel : Nat) : Step Node := do
  match fuel with
  | 0 => refuse (← peek) "too deeply nested"
  | fuel + 1 =>
    let t ← peek
    match t.kind with
    | .value =>
      skip
      let t ← peek
      match t.kind with
      | .flowEntry => pure (omitted t.line)
      | .flowMappingEnd => pure (omitted t.line)
      | _ => node fuel false false
    | _ => pure (omitted t.line)

end

/-- Reads the lines before a document about the text as a whole. The version must be 1.1. -/
def directives : Nat → Bool → Step Unit
  | 0, _ => pure ()
  | fuel + 1, sawVersion => do
    let t ← peek
    match t.kind with
    | .version major minor =>
      if sawVersion then refuse t "found duplicate %YAML directive"
      else if major ≠ 1 || minor ≠ 1 then refuse t "found incompatible YAML document"
      else
        skip
        directives fuel true
    | .tagHandle handle expansion =>
      let r ← get
      if r.handles.any (fun h => h.1 == handle) then refuse t "found duplicate %TAG directive"
      else
        set { r with handles := r.handles ++ [(handle, expansion)] }
        skip
        directives fuel sawVersion
    | _ => pure ()

/-- The handles for tags that need not be declared. -/
def usualHandles : List (String × String) := [("!", "!"), ("!!", longTag)]

/-- Reads the first document. What follows it is only looked at as far as needed to see that the
    document ends. -/
def document (fuel : Nat) : Step (Option Node) := do
  let addUsual : Step Unit :=
    modify (fun r => { r with handles := r.handles ++ usualHandles })
  let explicit : Step Node := do
    directives fuel false
    addUsual
    let t ← peek
    if t.kind ≠ .documentStart then refuse t "did not find expected <document start>"
    else
      skip
      let t ← peek
      match t.kind with
      | .version _ _ => pure (omitted t.line)
      | .tagHandle _ _ => pure (omitted t.line)
      | .documentStart => pure (omitted t.line)
      | .documentEnd => pure (omitted t.line)
      | .streamEnd => pure (omitted t.line)
      | _ => node fuel true false
  let t ← peek
  match t.kind with
  | .streamEnd => pure none
  | k =>
    let isExplicit :=
      match k with
      | .version _ _ => true
      | .tagHandle _ _ => true
      | .documentStart => true
      | _ => false
    let root ← if isExplicit then explicit else do addUsual; node fuel true false
    let _ ← peek
    pure (some root)

/-- The first document of a text. A character gives a token and opens or closes at most a block
    and a key, and no step leaves more than two others between two tokens. -/
def ofText (text : String) : Except Malformed Document :=
  let scanner := Scanner.start text
  let size := 16 * (scanner.cursor.size + 2)
  match (document size).run ⟨scanner, [], [], #[], 0⟩ with
  | .error e => .error e
  | .ok (root?, r) => .ok ⟨root?, r.anchored, size⟩

end Document

end TaintSeed.Yaml
