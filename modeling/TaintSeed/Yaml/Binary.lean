import TaintSeed.Text.Bytes

/-!
# Binary Text

Binary data is written with 64 characters, four of which give three bytes. Line
ends between them have no meaning. The bytes are then read as text, in which
there may be bytes that are part of no character.

## Main definitions

* `Yaml.Binary.bytes?`: The bytes of binary data.
* `Yaml.Binary.decode?`: The text of binary data.
-/

namespace TaintSeed.Yaml.Binary

/-- The value of one of the 64 characters. -/
def sextet? (c : Char) : Option Nat :=
  if 'A' ≤ c && c ≤ 'Z' then some (c.toNat - 65)
  else if 'a' ≤ c && c ≤ 'z' then some (c.toNat - 71)
  else if c.isDigit then some (c.toNat + 4)
  else if c == '+' then some 62
  else if c == '/' then some 63
  else none

/-- The bytes of groups of four characters, of which the last may be filled up. -/
def groups : List Char → Option (List Nat)
  | [] => some []
  | [a, b, '=', '='] =>
    match sextet? a, sextet? b with
    | some a, some b => some [a * 4 + b / 16]
    | _, _ => none
  | [a, b, c, '='] =>
    match sextet? a, sextet? b, sextet? c with
    | some a, some b, some c => some [a * 4 + b / 16, b % 16 * 16 + c / 4]
    | _, _, _ => none
  | a :: b :: c :: d :: rest =>
    match sextet? a, sextet? b, sextet? c, sextet? d, groups rest with
    | some a, some b, some c, some d, some bytes =>
      some ([a * 4 + b / 16, b % 16 * 16 + c / 4, c % 4 * 64 + d] ++ bytes)
    | _, _, _, _, _ => none
  | _ => none

/-- The bytes of binary data; nothing if it is malformed. -/
def bytes? (data : String) : Option (List Nat) :=
  groups (data.toList.filter (fun c => c != '\n' && c != '\r'))

/-- The text of binary data; nothing if it is malformed. -/
def decode? (data : String) : Option String := (bytes? data).map Text.Bytes.toText

end TaintSeed.Yaml.Binary
