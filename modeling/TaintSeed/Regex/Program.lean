import TaintSeed.Regex.Parse

/-!
# Matching Regular Expressions

An expression is turned into a program, a list of instructions that refer to
each other by position. A text is then read once from left to right, with the
set of all instructions at which a match that began earlier may stand. At
every place of the text a new match may begin, and the answer is yes as soon
as one may end. The work is bounded by the length of the text times the length
of the program, whatever the expression.

A program is built from its end: an expression is compiled in front of the
instruction that follows it, so only the start of a loop has to be filled in
afterwards.

## Main definitions

* `Regex.Instr`: An instruction.
* `Regex.Program`: Instructions and the place to begin.
* `Regex.compile?`: The program of an expression.
* `Regex.Program.matches`: Whether a text has a match.
-/

namespace TaintSeed.Regex

/-- An instruction of a program. -/
inductive Instr where
  /-- A match ends here. -/
  | accept
  /-- Takes a character of the set. -/
  | take (s : CharSet) (next : Nat)
  /-- Goes on at either of two places. -/
  | fork (left right : Nat)
  /-- Goes on where the condition holds. -/
  | check (a : Anchor) (next : Nat)
deriving Inhabited

/-- A program under construction: its instructions so far. -/
abbrev Code := Array Instr

/-- Adds an instruction, and gives its place. -/
def emit (code : Code) (i : Instr) : Code × Nat := (code.push i, code.size)

/-- Compiles `body` in front of `next` a number of times. -/
def emitTimes (body : Code → Nat → Code × Nat) : Nat → Code → Nat → Code × Nat
  | 0, code, next => (code, next)
  | n + 1, code, next =>
    let (code, entry) := body code next
    emitTimes body n code entry

/-- Compiles up to `n` rounds of `body`, each of which may be the last. -/
def emitUpTo (body : Code → Nat → Code × Nat) (done : Nat) : Nat → Code → Nat → Code × Nat
  | 0, code, next => (code, next)
  | n + 1, code, next =>
    let (code, entry) := body code next
    let (code, choice) := emit code (.fork entry done)
    emitUpTo body done n code choice

/-- Compiles any number of rounds of `body`. -/
def emitLoop (body : Code → Nat → Code × Nat) (code : Code) (next : Nat) : Code × Nat :=
  let (code, start) := emit code (.fork next next)
  let (code, entry) := body code start
  (code.setIfInBounds start (.fork entry next), start)

/-- Compiles one or more rounds of `body`. -/
def emitRounds (body : Code → Nat → Code × Nat) (code : Code) (next : Nat) : Code × Nat :=
  let (code, choice) := emit code (.fork next next)
  let (code, entry) := body code choice
  (code.setIfInBounds choice (.fork entry next), entry)

/-- Compiles an expression in front of the instruction `next`, and gives the place where it
    begins. -/
def emitRegex : Regex → Code → Nat → Code × Nat
  | .empty, code, next => (code, next)
  | .one s, code, next => emit code (.take s next)
  | .anchor a, code, next => emit code (.check a next)
  | .seq r s, code, next =>
    let (code, middle) := emitRegex s code next
    emitRegex r code middle
  | .alt r s, code, next =>
    let (code, left) := emitRegex r code next
    let (code, right) := emitRegex s code next
    emit code (.fork left right)
  | .star r, code, next => emitLoop (emitRegex r) code next
  | .plus r, code, next => emitRounds (emitRegex r) code next
  | .optional r, code, next =>
    let (code, entry) := emitRegex r code next
    emit code (.fork entry next)
  | .rounds r least none, code, next =>
    let (code, start) := emitLoop (emitRegex r) code next
    emitTimes (emitRegex r) least code start
  | .rounds r least (some most), code, next =>
    let (code, start) := emitUpTo (emitRegex r) next (most - least) code next
    emitTimes (emitRegex r) least code start

/-- A compiled expression. -/
structure Program where
  /-- The instructions. -/
  code : Array Instr
  /-- Where a match begins. -/
  start : Nat
deriving Inhabited

/-- The program of an expression. -/
def program (r : Regex) : Program :=
  let (code, final) := emit #[] .accept
  let (code, start) := emitRegex r code final
  ⟨code, start⟩

/-- The program of an expression given as text; nothing if it is malformed or too large. -/
def compile? (text : String) : Option Program := (parse? text).map program

/-- A place in a text: the characters on both sides. -/
structure Place where
  /-- The character before the place. -/
  before : Option Char
  /-- The character behind it. -/
  after : Option Char
deriving Inhabited

/-- Whether there is a word character. -/
def isWordChar : Option Char → Bool
  | none => false
  | some c => c.isAlphanum || c == '_'

/-- Whether a condition holds at a place. -/
def Anchor.holds (a : Anchor) (p : Place) : Bool :=
  match a with
  | .textStart => p.before.isNone
  | .textEnd => p.after.isNone
  | .lineStart => p.before.isNone || p.before == some '\n'
  | .lineEnd => p.after.isNone || p.after == some '\n'
  | .wordBoundary => isWordChar p.before != isWordChar p.after
  | .noWordBoundary => isWordChar p.before == isWordChar p.after

/-- The instructions that a match may stand at, and whether it may end. -/
structure Front where
  /-- For each instruction, whether it has been reached at this place. -/
  reached : Array Bool
  /-- The reached instructions that take a character. -/
  takers : List (CharSet × Nat)
  /-- Whether the end of a match has been reached. -/
  accepts : Bool
deriving Inhabited

/-- Goes on from pending instructions as far as no character is needed. -/
def advance (code : Array Instr) (p : Place) : Nat → List Nat → Front → Front
  | 0, _, f => f
  | _ + 1, [], f => f
  | fuel + 1, pc :: rest, f =>
    if f.reached.getD pc true then advance code p fuel rest f
    else
      let f := { f with reached := f.reached.setIfInBounds pc true }
      match code.getD pc .accept with
      | .accept => advance code p fuel rest { f with accepts := true }
      | .take s next => advance code p fuel rest { f with takers := (s, next) :: f.takers }
      | .fork left right => advance code p fuel (left :: right :: rest) f
      | .check a next =>
        if a.holds p then advance code p fuel (next :: rest) f else advance code p fuel rest f

namespace Program

/-- The front at a place, for matches that stand at the given instructions. -/
def front (m : Program) (p : Place) (pending : List Nat) : Front :=
  advance m.code p (pending.length + 2 * m.code.size + 1) pending
    ⟨Array.replicate m.code.size false, [], false⟩

/-- Whether a match ends in the rest of a text, or begins in it. -/
def search (m : Program) (before : Option Char) (active : List Nat) : List Char → Bool
  | [] => (m.front ⟨before, none⟩ (active ++ [m.start])).accepts
  | c :: cs =>
    let f := m.front ⟨before, some c⟩ (active ++ [m.start])
    if f.accepts then true
    else
      m.search (some c) ((f.takers.filter (fun t => t.1.contains c.toNat)).map Prod.snd) cs

/-- Whether a text has a match, anywhere. -/
def «matches» (m : Program) (text : String) : Bool := m.search none [] (Text.Bytes.shownChars text)

end Program

end TaintSeed.Regex
