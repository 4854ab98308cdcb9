import TaintSeed.Text.Bytes
import TaintSeed.Text.Category

/-!
# Quoted Text

Messages show names of the analyzed program between double quotes, so that
blanks and line ends inside a name can be told from those of the message. A
character that is printable stands for itself, apart from the quote and the
backslash, which get a backslash before them. The others are written as an
escape: a letter for the usual control characters, else the code point in
hexadecimal, with two digits below 128, four below 65536 and eight above. A
byte that is part of no character is written with two digits as well.

## Main definitions

* `Quoted.escape`: How one character is written.
* `Quoted.escapeSymbol`: The same for a character or a byte.
* `Quoted.quote`: A text between quotes.
-/

namespace TaintSeed.Text.Quoted

/-- The hexadecimal digit of a number below 16, in lower case. -/
def hexDigit (n : Nat) : Char :=
  if n < 10 then Char.ofNat (48 + n) else Char.ofNat (87 + n)

/-- The last `width` hexadecimal digits of a number. -/
def hex (width n : Nat) : List Char :=
  match width with
  | 0 => []
  | w + 1 => hex w (n / 16) ++ [hexDigit (n % 16)]

/-- How a character is written between quotes. -/
def escape (c : Char) : List Char :=
  if c = '\x22' then ['\\', '\x22']
  else if c = '\\' then ['\\', '\\']
  else if Category.isPrintable c.toNat then [c]
  else if c.toNat = 7 then ['\\', 'a']
  else if c.toNat = 8 then ['\\', 'b']
  else if c.toNat = 12 then ['\\', 'f']
  else if c.toNat = 10 then ['\\', 'n']
  else if c.toNat = 13 then ['\\', 'r']
  else if c.toNat = 9 then ['\\', 't']
  else if c.toNat = 11 then ['\\', 'v']
  else if c.toNat < 128 then '\\' :: 'x' :: hex 2 c.toNat
  else if c.toNat < 0x10000 then '\\' :: 'u' :: hex 4 c.toNat
  else '\\' :: 'U' :: hex 8 c.toNat

/-- How a character, or a byte that is part of none, is written between quotes. -/
def escapeSymbol : Bytes.Symbol → List Char
  | .char c => escape c
  | .byte b => '\\' :: 'x' :: hex 2 b

/-- The text between double quotes, with escapes where they are needed. -/
def quote (s : String) : String :=
  String.ofList ('\x22' :: (Bytes.symbols s).flatMap escapeSymbol ++ ['\x22'])

end TaintSeed.Text.Quoted
