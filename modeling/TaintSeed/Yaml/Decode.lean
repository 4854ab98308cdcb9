import TaintSeed.Text.Quoted
import TaintSeed.Yaml.Binary
import TaintSeed.Yaml.Node

/-!
# Reading Values from Documents

A decoder reads a value of some type from a node. What does not fit the type is
noted and left out, and reading goes on, so all mismatches of a document are
reported together. Some errors end the reading: a tag that its text does not
fit, a node that contains itself, or a merge of something that is no mapping.

A record is read from a mapping. Keys that are no fields are ignored. A key
given twice is a mismatch, and nothing of that mapping is used. Two keys that
are written differently can still name one field; then the first one counts,
and the second is a mismatch. The entries under the merge key `<<` fill the
fields that the mapping itself does not name.

To see what a mapping names, a merge reads its keys as values of any type. That
can fail where reading the fields does not: no key may be a list or a mapping.

## Main definitions

* `Yaml.Failure`: Why no value can be read.
* `Yaml.Decoder`: How to read values of a type.
* `Yaml.Decoder.string`, `Yaml.Decoder.integer`, `Yaml.Decoder.truth`, `Yaml.Decoder.list`,
  `Yaml.Decoder.optional`, `Yaml.Decoder.record`: The decoders.
* `Yaml.Value`: What a node is when no type is expected.
* `Yaml.decode`: Reads a value from a text.
-/

namespace TaintSeed.Yaml

/-- Why no value can be read from a text. -/
inductive Failure where
  /-- The text is malformed. -/
  | malformed (e : Malformed)
  /-- Something in the document cannot be read as any value. -/
  | unreadable (problem : String)
  /-- Values do not fit their types. -/
  | mismatches (lines : List String)
  /-- A key that is itself a list or a mapping stands beside a merge key. -/
  | compositeKey (type : String)
deriving DecidableEq

/-- The wording of the failure. -/
def Failure.message : Failure → String
  | .malformed e => e.message
  | .unreadable problem => "yaml: " ++ problem
  | .mismatches lines => "yaml: unmarshal errors:\n  " ++ "\n  ".intercalate lines
  | .compositeKey type => "runtime error: hash of unhashable type " ++ type

/-- The state of reading. -/
structure Decoding where
  /-- The mismatches so far, the last one first. -/
  mismatches : List String
  /-- The number of nodes that were read. -/
  visits : Nat
  /-- The number of these that were read through a reference. -/
  aliasVisits : Nat
  /-- The references that are being followed. -/
  active : List Nat
deriving Inhabited

/-- A step of reading values, with the document at hand. -/
abbrev Decode := ReaderT Document (StateT Decoding (Except Failure))

namespace Decode

/-- The document that is read. -/
def document : Decode Document := read

/-- Ends the reading. -/
def fail {α : Type} (problem : String) : Decode α := throw (.unreadable problem)

/-- Notes a mismatch. -/
def note (line : Nat) (problem : String) : Decode Unit :=
  modify (fun d => { d with
    mismatches := ("line " ++ toString line ++ ": " ++ problem) :: d.mismatches })

/-- The part of the nodes that may be read through references, in units of `1 / 360000000`: 99
    percent of up to 400000 nodes, 10 percent from 4000000 nodes on, and between them a part
    that falls evenly. -/
def allowedPart (visits : Nat) : Nat :=
  if visits ≤ 400000 then 99 * 3600000
  else if 4000000 ≤ visits then 10 * 3600000
  else 99 * 3600000 - 89 * (visits - 400000)

/-- Whether too many of the nodes were read through references. -/
def isExcessive (d : Decoding) : Bool :=
  100 < d.aliasVisits && 1000 < d.visits &&
    allowedPart d.visits * d.visits < 360000000 * d.aliasVisits

/-- Counts a node. -/
def count : Decode Unit := do
  modify (fun d => { d with
    visits := d.visits + 1
    aliasVisits := if d.active.isEmpty then d.aliasVisits else d.aliasVisits + 1 })
  if isExcessive (← get) then fail "document contains excessive aliasing"

/-- Reads a node, or the node that it refers to. A reference must not be met while it is being
    followed. -/
def visit {α : Type} (n : Node) (k : Node → Decode α) : Decode α := do
  count
  match n with
  | .alias _ name target serial =>
    let d ← get
    if d.active.contains serial then fail ("anchor '" ++ name ++ "' value contains itself")
    else
      set { d with active := serial :: d.active }
      count
      let r ← k ((← document).anchored.getD target default)
      modify (fun d => { d with active := d.active.filter (· != serial) })
      pure r
  | _ => k n

/-- The line where a node begins. -/
def lineOf : Node → Nat
  | .scalar line _ _ => line
  | .sequence line _ _ => line
  | .mapping line _ _ => line
  | .alias line _ _ _ => line

/-- A text of more than ten bytes is shown by its first seven. -/
def shown (value : String) : String :=
  let bytes := Text.Bytes.ofText value
  if 10 < bytes.length then Text.Bytes.toText (bytes.take 7) ++ "..." else value

/-- The tag of a node with its text, for reports. Lists and mappings have no text. -/
def description : Node → String
  | .scalar _ tag value =>
    if tag = "!!seq" || tag = "!!map" then tag ++ value else tag ++ " `" ++ shown value ++ "`"
  | .sequence _ tag _ => if tag = "!!seq" || tag = "!!map" then tag else tag ++ " ``"
  | .mapping _ tag _ => if tag = "!!seq" || tag = "!!map" then tag else tag ++ " ``"
  | .alias _ _ _ _ => ""

/-- Notes that a node does not fit a type. -/
def mismatch (n : Node) (type : String) : Decode Unit :=
  note (lineOf n) ("cannot unmarshal " ++ description n ++ " into " ++ type)

/-- The number of a node's sort and its text, which tell keys apart. -/
def keyIdentity : Node → Nat × String
  | .scalar _ _ value => (0, value)
  | .sequence _ _ _ => (1, "")
  | .mapping _ _ _ => (2, "")
  | .alias _ name _ _ => (3, name)

/-- The keys behind one key that are equal to it. -/
def repeatsOf (key : Node) : List (Node × Node) → List (Nat × String)
  | [] => []
  | e :: es =>
    if keyIdentity e.1 == keyIdentity key then
      (lineOf e.1, "mapping key " ++ Text.Quoted.quote (keyIdentity key).2 ++
        " already defined at line " ++ toString (lineOf key)) :: repeatsOf key es
    else repeatsOf key es

/-- All keys that are given twice. -/
def repeated : List (Node × Node) → List (Nat × String)
  | [] => []
  | e :: es => repeatsOf e.1 es ++ repeated es

/-- Notes the keys that are given twice, and tells whether there are none. -/
def keysDiffer (entries : List (Node × Node)) : Decode Bool := do
  let problems := repeated entries
  problems.forM (fun p => note p.1 p.2)
  pure problems.isEmpty

/-- What a scalar means, and its text. -/
def meaning (tag value : String) : Decode (Meaning × String) := do
  match Meaning.tagged tag value with
  | none =>
    fail ("cannot decode " ++ (Meaning.looks value false).tag ++ " `" ++ value ++ "` as a " ++ tag)
  | some m =>
    if tag = "!!binary" then
      match Binary.decode? value with
      | some text => pure (m, text)
      | none => fail "!!binary value contains invalid base64 data"
    else pure (m, value)

end Decode

/-- A key that is no list and no mapping, apart from how it is written. -/
structure Key where
  /-- What it means. -/
  meaning : Meaning
  /-- Its text, where the meaning does not say all. -/
  text : String
deriving DecidableEq, Inhabited

namespace Key

/-- A text as a key. -/
def ofText (text : String) : Key := ⟨.text, text⟩

/-- The key with a meaning, written as the text. -/
def ofMeaning (m : Meaning) (text : String) : Key :=
  match m with
  | .null => ⟨m, ""⟩
  | .truth _ => ⟨m, ""⟩
  | .integer _ => ⟨m, ""⟩
  | _ => ⟨m, text⟩

end Key

/-- What a node is when no type is expected. -/
inductive Value where
  /-- Something that can be a key. -/
  | key (k : Key)
  /-- A list. -/
  | list
  /-- A mapping, whose keys may all be texts. -/
  | map (texts : Bool)
deriving DecidableEq, Inhabited

/-- How to read values of a type. -/
structure Decoder (α : Type) where
  /-- The name of the type, for reports. -/
  type : String
  /-- The value before anything has been read. -/
  initial : α
  /-- Reads a node that is no reference over an old value. Tells also whether a value was
      read. -/
  read : α → Node → Decode (α × Bool)

namespace Decoder

open Decode

/-- Reads a node over an old value. -/
def run {α : Type} (d : Decoder α) (old : α) (n : Node) : Decode (α × Bool) := visit n (d.read old)

/-- Notes that a list or a mapping does not fit, unless the mapping has keys twice. -/
def reject {α : Type} (type : String) (old : α) (n : Node) : Decode (α × Bool) := do
  match n with
  | .mapping _ _ entries => if ← keysDiffer entries then mismatch n type
  | _ => mismatch n type
  pure (old, false)

/-- Reads a scalar; nothing leaves the old value, and `k` says what else fits. -/
def scalar {α : Type} (type : String) (initial : α) (k : Meaning → String → Option α) :
    Decoder α where
  type := type
  initial := initial
  read old n := do
    match n with
    | .scalar _ tag value =>
      let (m, text) ← meaning tag value
      match m with
      | .null => pure (old, false)
      | _ =>
        match k m text with
        | some a => pure (a, true)
        | none => reject type old n
    | _ => reject type old n

/-- Texts: any scalar is one. -/
def string : Decoder String := scalar "string" "" (fun _ text => some text)

/-- Integers of 64 bits; a number with a fraction is cut. -/
def integer : Decoder Int :=
  scalar "int" 0 (fun m _ =>
    match m with
    | .integer i => if i < Int.pow 2 63 then some i else none
    | .fraction f => f.toInteger?
    | _ => none)

/-- The texts that stand for a truth value where one is expected. -/
def truthWords : List (String × Bool) :=
  ["y", "Y", "yes", "Yes", "YES", "on", "On", "ON"].map (·, true) ++
    ["n", "N", "no", "No", "NO", "off", "Off", "OFF"].map (·, false)

/-- Truth values. -/
def truth : Decoder Bool :=
  scalar "bool" false (fun m text =>
    match m with
    | .truth b => some b
    | .text => (truthWords.find? (fun w => w.1 == text)).map Prod.snd
    | _ => none)

/-- Reads the items of a list; those that give no value are left out. -/
def items {α : Type} (d : Decoder α) : List Node → Decode (List α)
  | [] => pure []
  | n :: ns => do
    let (a, good) ← d.run d.initial n
    let rest ← items d ns
    pure (if good then a :: rest else rest)

/-- Lists; nothing is the empty list. -/
def list {α : Type} (d : Decoder α) : Decoder (List α) where
  type := "[]" ++ d.type
  initial := []
  read old n := do
    match n with
    | .sequence _ _ ns => pure (← items d ns, true)
    | .scalar _ tag value =>
      match (← meaning tag value).1 with
      | .null => pure ([], true)
      | _ => reject ("[]" ++ d.type) old n
    | _ => reject ("[]" ++ d.type) old n

/-- The tag of a node. -/
def tagOf : Node → String
  | .scalar _ tag _ => tag
  | .sequence _ tag _ => tag
  | .mapping _ tag _ => tag
  | .alias _ _ _ _ => ""

/-- Whether all keys of a mapping are tagged as texts, or as the merge key. -/
def hasTextKeys (doc : Document) (es : List (Node × Node)) : Bool :=
  es.all (fun e =>
    let tag :=
      match e.1 with
      | .alias _ _ target _ => tagOf (doc.anchored.getD target default)
      | n => tagOf n
    tag == "!!str" || tag == "!!merge")

/-- Values that may be absent. Only nothing is absent: a value that does not fit is there, as it
    was before. -/
def optional {α : Type} (d : Decoder α) : Decoder (Option α) where
  type := "*" ++ d.type
  initial := none
  read old n := do
    if tagOf n = "!!null" then
      match n with
      | .scalar _ tag value =>
        let _ ← meaning tag value
        pure (none, true)
      | _ => reject ("*" ++ d.type) old n
    else
      let (a, good) ← d.read (old.getD d.initial) n
      pure (some a, good)

/-- A field of a record: its key, and how to read it. -/
structure Field (ρ : Type) where
  /-- The key. -/
  key : String
  /-- Reads a node into the record. -/
  read : ρ → Node → Decode ρ

/-- The field of a key, with its decoder and its place in the record. -/
def field {ρ α : Type} (key : String) (d : Decoder α) (get : ρ → α) (put : ρ → α → ρ) :
    Field ρ where
  key := key
  read r n := do
    let (a, _) ← d.run (get r) n
    pure (put r a)

/-- Whether a key is the merge key. -/
def isMerge : Node → Bool
  | .scalar _ tag value => tag == "!!merge" && value == "<<"
  | _ => false

/-- Reads entries into a record. `taken` are the keys that are not read any more, if there are
    such, and `done` the names of the fields that were read. Gives also what stands under the
    merge key. -/
def entries {ρ : Type} (type : String) (fields : List (Field ρ)) :
    List (Node × Node) → ρ → Option (List Key) → List String → Option Node →
      Decode (ρ × Option (List Key) × Option Node)
  | [], r, taken, _, merge => pure (r, taken, merge)
  | (key, value) :: rest, r, taken, done, merge => do
    if isMerge key then entries type fields rest r taken done (some value)
    else
      let (name, good) ← string.run "" key
      -- What the mapping says itself wins over what it brings in.
      if !good || taken.any (fun keys => keys.contains (.ofText name)) then
        entries type fields rest r taken done merge
      else
        let taken := taken.map (fun keys => .ofText name :: keys)
        match fields.find? (fun f => f.key == name) with
        | none => entries type fields rest r taken done merge
        | some f =>
          if done.contains name then
            note (lineOf key) ("field " ++ name ++ " already set in type " ++ type)
            entries type fields rest r taken done merge
          else
            let r ← f.read r value
            entries type fields rest r taken (name :: done) merge

/-- The nodes that a merge key brings in: one, or those of a list. -/
def mergeNodes : Node → List Node
  | .sequence _ _ ns => ns
  | n => [n]

/-- Ends the reading unless a node that a merge key brings in is a mapping, or refers to one. -/
def checkMap (n : Node) : Decode Unit := do
  let target ←
    match n with
    | .alias _ _ target _ => pure ((← document).anchored.getD target default)
    | _ => pure n
  match target with
  | .mapping _ _ _ => pure ()
  | _ => fail "map merge requires map or sequence of maps as the value"

/-- Whether a key that is read as a value of any type is among those that are taken; if it is
    not, it is one of them from now on. -/
def take (v : Value) (taken : List Key) : Decode (Bool × List Key) :=
  match v with
  | .key k => pure (taken.contains k, if taken.contains k then taken else k :: taken)
  | .list => throw (.compositeKey "[]interface \x7b\x7d")
  | .map true => throw (.compositeKey "map[string]interface \x7b\x7d")
  | .map false => throw (.compositeKey "map[interface \x7b\x7d]interface \x7b\x7d")

mutual

/-- Reads a node as a value of any type; nothing if keys of a mapping are given twice. While the
    keys of a mapping are collected for a merge, those of a mapping among them are collected
    with them. -/
def value (fuel : Nat) (taken : Option (List Key)) (n : Node) :
    Decode (Option Value × Option (List Key)) := do
  match fuel with
  | 0 => fail "document contains excessive aliasing"
  | fuel + 1 =>
    visit n (fun n => do
      match n with
      | .scalar _ tag text =>
        let (m, text) ← meaning tag text
        pure (some (.key (.ofMeaning m text)), taken)
      | .sequence _ _ ns => pure (some .list, ← values fuel taken ns)
      | .mapping _ _ es =>
        let texts := hasTextKeys (← document) es
        if ← keysDiffer es then pure (some (.map texts), ← valueEntries fuel texts taken es)
        else pure (none, taken)
      | .alias _ _ _ _ => pure (none, taken))

/-- Reads the items of a list as values of any type. -/
def values (fuel : Nat) (taken : Option (List Key)) (ns : List Node) :
    Decode (Option (List Key)) := do
  match fuel, ns with
  | 0, _ => fail "document contains excessive aliasing"
  | _ + 1, [] => pure taken
  | fuel + 1, n :: ns =>
    let (_, taken) ← value fuel taken n
    values fuel taken ns

/-- Reads the entries of a mapping as values of any type, and what its merge key brings in. If
    `texts` says so, the keys are read as texts. -/
def valueEntries (fuel : Nat) (texts : Bool) (taken : Option (List Key))
    (es : List (Node × Node)) : Decode (Option (List Key)) := do
  match fuel with
  | 0 => fail "document contains excessive aliasing"
  | fuel + 1 =>
    let taken ← ownEntries fuel texts taken es
    match (es.filter (fun e => isMerge e.1)).getLast? with
    | none => pure taken
    | some e =>
      let keys ←
        match taken with
        | some keys => pure keys
        | none => keysOf fuel es []
      let keys ← mergedValues fuel texts keys (mergeNodes e.2)
      pure (taken.map (fun _ => keys))

/-- Reads the entries of a mapping as values of any type, apart from the merge key. The value of a
    key that is taken is not read. -/
def ownEntries (fuel : Nat) (texts : Bool) (taken : Option (List Key))
    (es : List (Node × Node)) : Decode (Option (List Key)) := do
  match fuel, es with
  | 0, _ => fail "document contains excessive aliasing"
  | _ + 1, [] => pure taken
  | fuel + 1, (k, v) :: es =>
    if isMerge k then ownEntries fuel texts taken es
    else
      let key ←
        if texts then do
          let (name, good) ← string.run "" k
          pure (if good then some (Value.key (.ofText name)) else none)
        else do
          let (v, _) ← value fuel none k
          pure v
      match key with
      | none => ownEntries fuel texts taken es
      | some key =>
        let (isTaken, taken) ←
          match taken with
          | none => pure (false, none)
          | some keys => do
            let (isTaken, keys) ← take key keys
            pure (isTaken, some keys)
        if isTaken then ownEntries fuel texts taken es
        else
          match key with
          | .key _ =>
            let _ ← value fuel none v
            ownEntries fuel texts taken es
          | _ => fail "invalid map key"

/-- The keys of a mapping, read as values of any type. -/
def keysOf (fuel : Nat) (es : List (Node × Node)) (keys : List Key) : Decode (List Key) := do
  match fuel, es with
  | 0, _ => fail "document contains excessive aliasing"
  | _ + 1, [] => pure keys
  | fuel + 1, (k, _) :: es =>
    let (v, taken) ← value fuel (some keys) k
    let keys := taken.getD keys
    match v with
    | none => keysOf fuel es keys
    | some v =>
      let (_, keys) ← take v keys
      keysOf fuel es keys

/-- Reads mappings that a merge key brings in as values of any type. -/
def mergedValues (fuel : Nat) (texts : Bool) (keys : List Key) (ns : List Node) :
    Decode (List Key) := do
  match fuel, ns with
  | 0, _ => fail "document contains excessive aliasing"
  | _ + 1, [] => pure keys
  | fuel + 1, n :: ns =>
    checkMap n
    let taken ← visit n (fun n => do
      match n with
      | .mapping _ _ es =>
        if ← keysDiffer es then valueEntries fuel texts (some keys) es else pure (some keys)
      | _ => pure (some keys))
    mergedValues fuel texts (taken.getD keys) ns

end

mutual

/-- Reads a mapping into a record, and what its merge key brings in. -/
def mapping {ρ : Type} (type : String) (fields : List (Field ρ)) (fuel : Nat) (r : ρ)
    (taken : Option (List Key)) (es : List (Node × Node)) :
    Decode (ρ × Bool × Option (List Key)) := do
  match fuel with
  | 0 => fail "document contains excessive aliasing"
  | fuel + 1 =>
    if ← keysDiffer es then
      let (r, taken, merge) ← entries type fields es r taken [] none
      match merge with
      | none => pure (r, true, taken)
      | some m =>
        -- The merge comes last, wherever its key stands, and leaves the mapping's own keys alone.
        let keys ←
          match taken with
          | some keys => pure keys
          | none => keysOf fuel es []
        let (r, keys) ← merged type fields fuel r keys (mergeNodes m)
        pure (r, true, taken.map (fun _ => keys))
    else pure (r, false, taken)

/-- Reads mappings one after the other into a record, each where the ones before it leave
    fields. -/
def merged {ρ : Type} (type : String) (fields : List (Field ρ)) (fuel : Nat) (r : ρ)
    (keys : List Key) (ns : List Node) : Decode (ρ × List Key) := do
  match fuel with
  | 0 => fail "document contains excessive aliasing"
  | fuel + 1 =>
    match ns with
    | [] => pure (r, keys)
    | n :: ns =>
      checkMap n
      let (r, keys) ← visit n (fun n => do
        match n with
        | .mapping _ _ es =>
          let (r, _, taken) ← mapping type fields fuel r (some keys) es
          pure (r, taken.getD keys)
        | _ => pure (r, keys))
      merged type fields fuel r keys ns

end

/-- Records. A reference is followed at most once at a time, and between two references there are
    no more steps than tokens; that bounds the merges. -/
def record {ρ : Type} (type : String) (initial : ρ) (fields : List (Field ρ)) : Decoder ρ where
  type := type
  initial := initial
  read old n := do
    match n with
    | .mapping _ _ es =>
      let size := (← document).size
      let (r, good, _) ← mapping type fields (2 * Nat.pow (size + 2) 2) old none es
      pure (r, good)
    | .scalar _ tag value =>
      match (← meaning tag value).1 with
      | .null => pure (old, false)
      | _ => reject type old n
    | _ => reject type old n

end Decoder

/-- Reads a value from the first document of a text. An empty text leaves the initial value. -/
def decode {α : Type} (d : Decoder α) (text : String) : Except Failure α :=
  match Document.ofText text with
  | .error e => .error (.malformed e)
  | .ok doc =>
    match doc.root? with
    | none => .ok d.initial
    | some root =>
      match ((d.run d.initial root).run doc).run ⟨[], 1, 0, []⟩ with
      | .error e => .error e
      | .ok ((a, _), state) =>
        if state.mismatches.isEmpty then .ok a else .error (.mismatches state.mismatches.reverse)

end TaintSeed.Yaml
