/-!
# Texts and Their Bytes

A text comes from outside as a sequence of bytes, and not every sequence of
bytes is made of characters: binary data in a configuration can give any, and a
text that is cut after a number of bytes can end within a character. Such
texts are still compared, quoted and passed on, so no byte of them may be lost.

A byte that is part of no character is kept as a character of its own, taken
from a block of 128 code points that are for private use. A character of that
block that really occurs is kept as its four bytes in the same way. So each
sequence of bytes is one text, and two texts are equal when their bytes are.

## Main definitions

* `Bytes.Symbol`: A character, or a byte that is part of none.
* `Bytes.ofText`: The bytes of a text.
* `Bytes.toText`: The text of a list of bytes.
* `Bytes.symbols`: The characters of a text and its other bytes.
* `Bytes.accept`: A text from outside, all of whose characters are meant as such.
* `Bytes.shown`: A text for others, with a replacement for each byte that is part of no character.
-/

namespace TaintSeed.Text.Bytes

/-- A character, or a byte that is part of none. -/
inductive Symbol where
  /-- A character. -/
  | char (c : Char)
  /-- A byte that is part of no character. -/
  | byte (b : Nat)
deriving DecidableEq, Inhabited

/-- The code point that the byte 0 would have; only bytes from 128 on are ever kept. -/
def strayBase : Nat := 0x10DC00

/-- Whether a character of a text is a byte that is kept. -/
def isStray (c : Char) : Bool := strayBase + 0x80 ≤ c.toNat && c.toNat < strayBase + 0x100

/-- A byte as it is kept. -/
def stray (b : Nat) : Char := Char.ofNat (strayBase + b)

/-- The bytes of a character by its code point. -/
def encode (n : Nat) : List Nat :=
  if n < 0x80 then [n]
  else if n < 0x800 then [0xC0 + n / 64, 0x80 + n % 64]
  else if n < 0x10000 then [0xE0 + n / 4096, 0x80 + n / 64 % 64, 0x80 + n % 64]
  else [0xF0 + n / 262144, 0x80 + n / 4096 % 64, 0x80 + n / 64 % 64, 0x80 + n % 64]

/-- The bytes that a character of a text stands for. -/
def ofChar (c : Char) : List Nat := if isStray c then [c.toNat - strayBase] else encode c.toNat

/-- The bytes of a text. -/
def ofText (s : String) : List Nat := s.toList.flatMap ofChar

/-- Whether a byte continues a character. -/
def isTail (b : Nat) : Bool := 0x80 ≤ b && b < 0xC0

/-- The code point that a list of bytes begins with, if they begin with a character, and the
    number of its bytes. Of the ways to write a code point only the shortest counts. -/
def first? : List Nat → Option (Nat × Nat)
  | [] => none
  | a :: rest =>
    if a < 0x80 then some (a, 1)
    else
      match rest with
      | b :: c :: d :: _ => (two? a b).orElse fun _ => (three? a b c).orElse fun _ => four? a b c d
      | b :: c :: _ => (two? a b).orElse fun _ => three? a b c
      | b :: _ => two? a b
      | [] => none
where
  /-- A character of two bytes. -/
  two? (a b : Nat) : Option (Nat × Nat) :=
    if 0xC2 ≤ a && a < 0xE0 && isTail b then some (a % 32 * 64 + b % 64, 2) else none
  /-- A character of three bytes. -/
  three? (a b c : Nat) : Option (Nat × Nat) :=
    let n := a % 16 * 4096 + b % 64 * 64 + c % 64
    if 0xE0 ≤ a && a < 0xF0 && isTail b && isTail c && 0x800 ≤ n &&
        !(0xD800 ≤ n && n < 0xE000) then
      some (n, 3)
    else none
  /-- A character of four bytes. -/
  four? (a b c d : Nat) : Option (Nat × Nat) :=
    let n := a % 8 * 262144 + b % 64 * 4096 + c % 64 * 64 + d % 64
    if 0xF0 ≤ a && a < 0xF5 && isTail b && isTail c && isTail d && 0x10000 ≤ n &&
        n < 0x110000 then
      some (n, 4)
    else none

/-- Splits bytes into characters and other bytes. The first argument bounds their number. -/
def split : Nat → List Nat → List Symbol
  | 0, _ => []
  | _ + 1, [] => []
  | fuel + 1, b :: bs =>
    match first? (b :: bs) with
    | some (n, length) => .char (Char.ofNat n) :: split fuel ((b :: bs).drop length)
    | none => .byte b :: split fuel bs

/-- A character as it is kept: by itself, or by its bytes if it is one of those that stand for
    bytes. -/
def keep (c : Char) : List Char := if isStray c then (encode c.toNat).map stray else [c]

/-- How a character or a byte is kept. -/
def Symbol.kept : Symbol → List Char
  | .char c => keep c
  | .byte b => [stray b]

/-- The text of a list of bytes. -/
def toText (bs : List Nat) : String :=
  String.ofList ((split bs.length bs).flatMap Symbol.kept)

/-- The characters of a text and its other bytes. -/
def symbols (s : String) : List Symbol :=
  -- Most texts have characters only.
  if s.toList.any isStray then
    let bs := ofText s
    split bs.length bs
  else s.toList.map .char

/-- A text from outside, all of whose characters are meant as such. -/
def accept (s : String) : String :=
  if s.toList.any isStray then String.ofList (s.toList.flatMap keep) else s

/-- Whether all bytes of a text are parts of characters. -/
def isProper (s : String) : Bool :=
  (symbols s).all (fun x => match x with | .char _ => true | .byte _ => false)

/-- The characters of a text as others see it, who replace each byte that is part of none. -/
def shownChars (s : String) : List Char :=
  (symbols s).map (fun x => match x with | .char c => c | .byte _ => Char.ofNat 0xFFFD)

/-- A text for others, with a replacement for each byte that is part of no character. -/
def shown (s : String) : String :=
  if s.toList.any isStray then String.ofList (shownChars s) else s

/-- Whether one list of bytes comes before another or is equal to it. -/
def listLe : List Nat → List Nat → Bool
  | [], _ => true
  | _ :: _, [] => false
  | a :: as, b :: bs => a < b || (a == b && listLe as bs)

/-- Whether a text comes before another or is equal to it, in the order of their bytes. -/
def le (s t : String) : Bool := listLe (ofText s) (ofText t)

end TaintSeed.Text.Bytes
