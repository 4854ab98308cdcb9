import TaintSeed.Regex.Basic

/-!
# Limits of Expressions

An expression may not be nested more than a thousand deep, and its repetitions,
written out, may not give too long a program. Both are measured on an outline
of the expression that grows while it is read, from which what does not count
has been taken out: characters side by side are one text, a sequence inside of
a sequence and a choice inside of a choice are part of it, a choice between
single characters is a set, and what alternatives begin with in common is put
before them. So the groups of an expression count only where they are needed.

The length is not measured until it may matter. Until then the number of parts
that were ever in use together is held against the product of all repetitions.
Parts that are given back are used again, so a long text counts as few parts;
it is the only thing that escapes the bound.

## Main definitions

* `Regex.Shape`: An expression reduced to what counts.
* `Regex.Outline`: The parts of an expression that is being read.
* `Regex.Outline.check`: The limits.
* `Regex.Outline.choice`: A choice, with what its alternatives have in common before them.
* `Regex.Outline.text`, `Regex.Outline.oneOf`, `Regex.Outline.anchor`,
  `Regex.Outline.repeated`, `Regex.Outline.open`, `Regex.Outline.bar`, `Regex.Outline.close`,
  `Regex.Outline.endAlternatives`: What the parts of an expression do to it.
-/

namespace TaintSeed.Regex

/-- The deepest nesting. -/
def maxHeight : Nat := 1000

/-- The greatest length of a program. -/
def maxSize : Nat := 3355443

/-- An expression reduced to what counts. Each compound has its height and its length. -/
inductive Shape where
  /-- The empty text. -/
  | empty
  /-- Code points one behind the other, perhaps without regard to case. -/
  | text (chars : Array Nat) (fold : Bool)
  /-- One character of a set. -/
  | set (s : CharSet)
  /-- A condition. -/
  | anchor (a : Anchor)
  /-- A numbered group, or a repetition that is written with a sign. -/
  | wrapped (height size : Nat)
  /-- A repetition with bounds, which may prefer fewer rounds. -/
  | rounds (height size least : Nat) (most : Option Nat) (isLazy : Bool) (body : Shape)
  /-- One part behind the other. -/
  | seq (height size : Nat) (parts : List Shape)
  /-- One part or another. -/
  | alt (height size : Nat) (parts : List Shape)
deriving Inhabited

namespace Shape

/-- How deep a shape is nested. -/
def height : Shape → Nat
  | .wrapped height _ => height
  | .rounds height _ _ _ _ _ => height
  | .seq height _ _ => height
  | .alt height _ _ => height
  | _ => 1

/-- The length of the program of a shape. -/
def size : Shape → Nat
  | .text chars _ => max 1 chars.size
  | .wrapped _ size => size
  | .rounds _ size _ _ _ _ => size
  | .seq _ size _ => size
  | .alt _ size _ => size
  | _ => 1

/-- A level above the deepest of several shapes. -/
def above (parts : List Shape) : Nat := (parts.map height).foldl max 0 + 1

/-- The sequence of several shapes. -/
def ofSeq (parts : List Shape) : Shape :=
  .seq (above parts) (max 1 ((parts.map size).foldr (· + ·) 0)) parts

/-- The choice between several shapes. -/
def ofAlt (parts : List Shape) : Shape :=
  .alt (above parts) (max 1 ((parts.map size).foldr (· + ·) 0 + (parts.length - 1))) parts

/-- The length of the program of a repetition with bounds. -/
def roundsSize (size least : Nat) : Option Nat → Nat
  | none => if least = 0 then 2 + size else 1 + least * size
  | some most => max 1 (most * size + (most - least))

/-- Whether a shape is a single character or a set. -/
def isOne : Shape → Bool
  | .text chars _ => chars.size == 1
  | .set _ => true
  | _ => false

/-- The set of a single character, or the set itself. -/
def toSet : Shape → CharSet
  | .text chars fold => CharSet.foldedIf fold (.single (chars.getD 0 0))
  | .set s => s
  | _ => .none

/-- A choice between two characters or sets as one. -/
def unite (s t : Shape) : Shape :=
  match s, t with
  | .text a f, .text b g => if a == b && f == g then s else .set (.union s.toSet t.toSet)
  | _, _ => .set (.union s.toSet t.toSet)

/-- The text that a shape begins with, and whether it is without regard to case. -/
def leadingText : Shape → Array Nat × Bool
  | .text chars fold => (chars, fold)
  | .seq _ _ (.text chars fold :: _) => (chars, fold)
  | _ => (#[], false)

/-- The first part of a shape. -/
def leadingPart? : Shape → Option Shape
  | .empty => none
  | .seq _ _ (.empty :: _) => none
  | .seq _ _ (s :: _) => some s
  | s => some s

/-- Whether two shapes are the same character or set, or the same fixed number of these. Only
    such may be put before alternatives that begin with them. -/
def isCommon : Shape → Shape → Bool
  | .text a _, .text b _ => a.size == 1 && a == b
  | .set s, .set t => s.isSame t
  | .rounds _ _ least most isLazy body, .rounds _ _ least' most' isLazy' body' =>
    most == some least && least == least' && most == most' && isLazy == isLazy' &&
      match body, body' with
      | .text a _, .text b _ => a.size == 1 && a == b
      | .set s, .set t => s.isSame t
      | _, _ => false
  | _, _ => false

/-- The number of code points that two texts begin with in common. -/
def common (a b : Array Nat) : Nat := ((a.zip b).toList.takeWhile (fun p => p.1 == p.2)).length

end Shape

/-- Something that has been read: a part, or a sign that it waits for. -/
inductive Entry where
  /-- A part of the expression. -/
  | shape (s : Shape)
  /-- A bar; what is below it are alternatives. -/
  | bar
  /-- An opening parenthesis, of a numbered group or of another. -/
  | paren (isNumbered : Bool)
deriving Inhabited

/-- The parts of an expression that is being read. -/
structure Outline where
  /-- The parts and signs so far, the last one first. -/
  stack : List Entry
  /-- The number of parts that were in use together. -/
  used : Nat
  /-- The number of these that were given back. -/
  spare : Nat
  /-- The product of the repetitions, up to the greatest length. -/
  repeats : Nat
  /-- Whether the length is measured. -/
  isMeasured : Bool
  /-- The length of the expression, which bounds how often alternatives can be taken apart. -/
  length : Nat
deriving Inhabited

/-- A step of reading, which fails when the expression is too large. -/
abbrev Outline.Step := StateT Outline Option

namespace Outline

/-- The outline of an expression of a given length before its first part. -/
def start (length : Nat) : Outline := ⟨[], 0, 0, 1, false, length⟩

/-- Takes a part into use. -/
def allot : Step Unit :=
  modify (fun o =>
    if 0 < o.spare then { o with spare := o.spare - 1 } else { o with used := o.used + 1 })

/-- Gives a part back. -/
def giveBack : Step Unit := modify (fun o => { o with spare := o.spare + 1 })

/-- The product of the repetitions with that of a shape, up to the greatest length. -/
def times (repeats : Nat) : Shape → Nat
  | .rounds _ _ least most _ _ =>
    let n := max 1 (most.getD least)
    if maxSize / repeats < n then maxSize else repeats * n
  | _ => repeats

/-- Whether all parts are short enough. -/
def isShort (stack : List Entry) : Bool :=
  stack.all (fun e => match e with | .shape s => s.size ≤ maxSize | _ => true)

/-- Fails if a shape is nested too deep, or if its program is too long. -/
def check (s : Shape) : Step Unit := do
  let o ← get
  if o.isMeasured then guard (s.size ≤ maxSize)
  else
    let repeats := times o.repeats s
    let isMeasured := !decide (o.used < maxSize / repeats)
    set { o with repeats := repeats, isMeasured := isMeasured }
    guard (!isMeasured || (isShort o.stack && s.size ≤ maxSize))
  guard (s.height ≤ maxHeight)

/-- Adds an entry. -/
def add (e : Entry) : Step Unit := do
  modify (fun o => { o with stack := e :: o.stack })
  check (match e with | .shape s => s | _ => .empty)

/-- Joins the last two parts if both are texts. -/
def joinTexts : Step Unit := do
  let o ← get
  match o.stack with
  | .shape (.text b f) :: .shape (.text a g) :: rest =>
    if f == g then
      set { o with stack := .shape (.text (a ++ b) g) :: rest }
      giveBack
  | _ => pure ()

/-- The code point that a set consists of, or the lower one of two that differ in case; then case
    has no meaning. -/
def onlyChar? (s : CharSet) : Option (Nat × Bool) :=
  let pair (a b : Nat) : Option (Nat × Bool) :=
    let mates := Text.CaseFold.mates a
    if mates.length == 2 && mates.contains b then some (a, true) else none
  match s.explicit? with
  | some [(a, b)] => if a = b then some (a, false) else if a + 1 = b then pair a b else none
  | some [(a, a'), (b, b')] => if a = a' && b = b' then pair a b else none
  | _ => none

/-- Adds a character. The two texts before it are joined, and then it takes the place of one. -/
def pushChar (c : Nat) (fold : Bool) : Step Unit := do
  let o ← get
  let char := Shape.text #[c] fold
  match o.stack with
  | .shape (.text b f) :: .shape (.text a g) :: rest =>
    if f == g then set { o with stack := .shape char :: .shape (.text (a ++ b) g) :: rest }
    else add (.shape char)
  | _ => add (.shape char)

/-- Adds a part. -/
def push (s : Shape) : Step Unit := do
  match s with
  | .set cs =>
    match onlyChar? cs with
    | some (c, fold) => pushChar c fold
    | none =>
      joinTexts
      add (.shape s)
  | _ =>
    joinTexts
    add (.shape s)

/-- Takes a number of code points from the beginning of a shape, which begins with a text. -/
def dropText (n : Nat) : Shape → Step Shape
  | .text chars fold => pure (if chars.size ≤ n then .empty else .text (chars.extract n) fold)
  | .seq _ _ (.text chars fold :: parts) => do
    if chars.size ≤ n then
      giveBack
      match parts with
      | [] => pure .empty
      | [s] => do
        giveBack
        pure s
      | _ => pure (.ofSeq parts)
    else pure (.ofSeq (.text (chars.extract n) fold :: parts))
  | s => pure s

/-- Takes the first part from a shape. It is given back unless it is used further. -/
def dropPart (isUsed : Bool) (s : Shape) : Step Shape := do
  if !isUsed then giveBack
  match s with
  | .seq _ _ [_] => pure .empty
  | .seq _ _ [_, t] => do
    giveBack
    pure t
  | .seq _ _ (_ :: parts) => pure (.ofSeq parts)
  | _ => do
    allot
    pure .empty

/-- Checks shapes one after the other as they are made. -/
def checked (make : Shape → Step Shape) : List Shape → Step (List Shape)
  | [] => pure []
  | s :: rest => do
    let s ← make s
    check s
    pure (s :: (← checked make rest))

/-- Takes choices out of a choice, and sequences out of a sequence. -/
def flatten (isAlt : Bool) : List Shape → Step (List Shape)
  | [] => pure []
  | s :: rest => do
    let inner? : Option (List Shape) :=
      match s with
      | .alt _ _ parts => if isAlt then some parts else none
      | .seq _ _ parts => if isAlt then none else some parts
      | _ => none
    match inner? with
    | some parts =>
      giveBack
      pure (parts ++ (← flatten isAlt rest))
    | none => pure (s :: (← flatten isAlt rest))

/-- Joins runs of characters and sets to one set. `run` is the run before the shapes. -/
def joinSets (run : Option Shape) : List Shape → Step (List Shape)
  | [] => pure run.toList
  | s :: rest => do
    if s.isOne then
      match run with
      | none => joinSets (some s) rest
      | some r =>
        giveBack
        joinSets (some (r.unite s)) rest
    else pure (run.toList ++ s :: (← joinSets none rest))

/-- Leaves one of several empty texts that follow each other. -/
def joinEmpty : List Shape → List Shape
  | .empty :: .empty :: rest => joinEmpty (.empty :: rest)
  | s :: rest => s :: joinEmpty rest
  | [] => []

mutual

/-- Puts texts that alternatives begin with in common before them. `run` are the alternatives
    before the present one that begin with `chars`, the last one first. -/
def factorTexts (fuel : Nat) (run : List Shape) (chars : Array Nat) (fold : Bool)
    (parts : List Shape) : Step (List Shape) := do
  match fuel, parts with
  | 0, _ => pure (run.reverse ++ parts)
  | fuel + 1, [] => endTextRun fuel run.reverse chars fold
  | fuel + 1, s :: rest =>
    let (own, ownFold) := s.leadingText
    let n := if ownFold == fold then Shape.common chars own else 0
    if 0 < n then factorTexts fuel (s :: run) (chars.take n) fold rest
    else
      let done ← endTextRun fuel run.reverse chars fold
      pure (done ++ (← factorTexts fuel [s] own ownFold rest))

/-- One shape for alternatives that begin with the same text. -/
def endTextRun (fuel : Nat) (run : List Shape) (chars : Array Nat) (fold : Bool) :
    Step (List Shape) := do
  match fuel, run with
  | 0, _ => pure run
  | _ + 1, [] => pure []
  | _ + 1, [s] => pure [s]
  | fuel + 1, run =>
    allot
    let behind ← choice fuel (← checked (dropText chars.size) run)
    allot
    pure [.ofSeq [.text chars fold, behind]]

/-- Puts characters and sets that alternatives begin with in common before them. -/
def factorParts (fuel : Nat) (run : List Shape) (first? : Option Shape) (parts : List Shape) :
    Step (List Shape) := do
  match fuel, parts with
  | 0, _ => pure (run.reverse ++ parts)
  | fuel + 1, [] => endPartRun fuel run.reverse first?
  | fuel + 1, s :: rest =>
    let own? := s.leadingPart?
    let isCommon := match first?, own? with | some a, some b => a.isCommon b | _, _ => false
    if isCommon then factorParts fuel (s :: run) first? rest
    else
      let done ← endPartRun fuel run.reverse first?
      pure (done ++ (← factorParts fuel [s] own? rest))

/-- One shape for alternatives that begin with the same part. -/
def endPartRun (fuel : Nat) (run : List Shape) (first? : Option Shape) : Step (List Shape) := do
  match fuel, run, first? with
  | 0, _, _ => pure run
  | _ + 1, [], _ => pure []
  | fuel + 1, s :: t :: rest, some first =>
    let s' ← dropPart true s
    check s'
    let behind ← choice fuel (s' :: (← checked (dropPart false) (t :: rest)))
    allot
    pure [.ofSeq [first, behind]]
  | _ + 1, run, _ => pure run

/-- The choice between several shapes, of which there is at least one. -/
def choice (fuel : Nat) (parts : List Shape) : Step Shape := do
  match fuel, parts with
  | 0, _ => pure (.ofAlt parts)
  | _ + 1, [s] => pure s
  | fuel + 1, _ =>
    allot
    let parts ← flatten true parts
    let parts ← factorTexts fuel [] #[] false parts
    let parts ← factorParts fuel [] none parts
    let parts ← joinSets none parts
    match joinEmpty parts with
    | [s] => do
      giveBack
      pure s
    | parts => pure (.ofAlt parts)

end

/-- The sequence of several shapes, of which there is at least one. -/
def sequence : List Shape → Step Shape
  | [s] => pure s
  | parts => do
    allot
    pure (.ofSeq (← flatten false parts))

/-- The parts above the last sign, in order, and what is below them. -/
def partsAbove : List Shape → List Entry → List Shape × List Entry
  | parts, .shape s :: rest => partsAbove (s :: parts) rest
  | parts, rest => (parts, rest)

/-- Makes one part of those above the last sign. -/
def collapse (make : List Shape → Step Shape) : Step Unit := do
  let o ← get
  let (parts, rest) := partsAbove [] o.stack
  set { o with stack := rest }
  if parts.isEmpty then
    allot
    push .empty
  else push (← make parts)

/-- Makes a sequence of the parts above the last sign. -/
def endSequence : Step Unit := do
  joinTexts
  collapse sequence

/-- Makes a choice of the parts above the last sign. -/
def endChoice : Step Unit := do
  let o ← get
  collapse (choice (16 * (o.length + 2)))

/-- Moves a bar above the alternative that follows it, if there is one. Two alternatives that are
    characters or sets become one. -/
def moveBar : Step Bool := do
  let o ← get
  match o.stack with
  | .shape t :: .bar :: .shape s :: rest =>
    if s.isOne && t.isOne then
      set { o with stack := .bar :: .shape (s.unite t) :: rest }
      giveBack
    else set { o with stack := .bar :: .shape t :: .shape s :: rest }
    pure true
  | .shape t :: .bar :: rest =>
    set { o with stack := .bar :: .shape t :: rest }
    pure true
  | _ => pure false

/-- Ends the alternatives above the last parenthesis. -/
def endAlternatives : Step Unit := do
  endSequence
  if ← moveBar then modify (fun o => { o with stack := o.stack.drop 1 })
  endChoice

/-- A character. -/
def text (c : Nat) (fold : Bool) : Step Unit := do
  allot
  let c := if fold then (Text.CaseFold.mates c).foldl min c else c
  push (.text #[c] fold)

/-- A character behind a backslash, for which a set was prepared. -/
def escaped (c : Nat) (fold : Bool) : Step Unit := do
  allot
  giveBack
  text c fold

/-- One character of a set. -/
def oneOf (s : CharSet) : Step Unit := do
  allot
  push (.set s)

/-- A condition. -/
def anchor (a : Anchor) : Step Unit := do
  allot
  push (.anchor a)

/-- A repetition of the last part. -/
def repeated (wrap : Shape → Shape) : Step Unit := do
  allot
  let o ← get
  match o.stack with
  | .shape s :: rest =>
    set { o with stack := .shape (wrap s) :: rest }
    check (wrap s)
  | _ => failure

/-- A sign. -/
def sign (e : Entry) : Step Unit := do
  allot
  joinTexts
  add e

/-- An opening parenthesis. -/
def «open» (isNumbered : Bool) : Step Unit := sign (.paren isNumbered)

/-- A bar between alternatives. -/
def bar : Step Unit := do
  endSequence
  if !(← moveBar) then sign .bar

/-- A closing parenthesis. -/
def close : Step Unit := do
  endAlternatives
  let o ← get
  match o.stack with
  | .shape s :: .paren isNumbered :: rest =>
    set { o with stack := rest }
    push (if isNumbered then .wrapped (s.height + 1) (s.size + 2) else s)
  | _ => failure

end Outline

end TaintSeed.Regex
