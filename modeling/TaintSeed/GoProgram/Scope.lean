import TaintSeed.GoProgram.Package

/-!
# Names and Types in a Package

What is written in a package, read as types. A name means a type of the package
before one that is built in, and the type parameter of a function before both.

An instance of a generic function is called by the name of the function with the
type argument between brackets. The argument is a type as it is written in a
program, so brackets can be nested, and blanks may stand between its parts.
Every type is longer than its parts, which bounds the depth of the reading.

## Main definitions

* `Scope`: What names mean.
* `Scope.typeOf`: The type that a name means.
* `Scope.typeOfText`: The type that a text means.
* `Scope.callOf`: The call of a function by its name.
-/

namespace TaintSeed.GoProgram

/-- What names mean at some place. -/
structure Scope where
  /-- The path of the package. -/
  package : String
  /-- The names of its types. -/
  types : List String
  /-- The title of the generic function whose body this is. -/
  generic? : Option String

namespace Scope

/-- The type that a name means. -/
def typeOf (s : Scope) (name : String) : GoType :=
  match s.generic?, name == typeParamName with
  | some function, true => .typeParam function name
  | _, _ =>
    if s.types.contains name then .named s.package name
    else if Declarations.builtin.any (fun t => t.name == name) then .named "" name
    else .basic name

/-- What is left of a text behind blanks. -/
def skipBlanks (cs : List Char) : List Char :=
  cs.dropWhile (fun c => c == ' ' || c == '\t' || c == '\n')

/-- Whether a character can be part of a name. Names of other packages have a dot. -/
def isNameChar (c : Char) : Bool := !" \t\n()[]\x7b\x7d*,;<-".toList.contains c

/-- Splits off a name. -/
def name (cs : List Char) : String × List Char :=
  let cs := skipBlanks cs
  (String.ofList (cs.takeWhile isNameChar), cs.dropWhile isNameChar)

/-- What is left behind a sign. -/
def sign? (c : Char) (cs : List Char) : Option (List Char) :=
  match skipBlanks cs with
  | d :: rest => if d == c then some rest else none
  | [] => none

/-- A reader of parts of a text. -/
abbrev Reads (α : Type) := List Char → Option (α × List Char)

/-- Reads parts with signs between them, up to a closing sign, which may follow a last sign
    directly. -/
def parts? (between closing : Char) (part? : Reads α) : Nat → Reads (List α)
  | 0, _ => none
  | fuel + 1, cs =>
    match sign? closing cs with
    | some rest => some ([], rest)
    | none => do
      let (x, rest) ← part? cs
      match sign? between rest with
      | some more =>
        let (xs, rest) ← parts? between closing part? fuel more
        some (x :: xs, rest)
      | none =>
        let rest ← sign? closing rest
        some ([x], rest)

/-- Reads results: several between parentheses, one without, or none. -/
def results? (type? : Reads GoType) (cs : List Char) : Option (Members × List Char) :=
  match sign? '(' cs with
  | some rest => do
    let (types, rest) ← parts? ',' ')' type? rest.length.succ rest
    some (.unnamed types, rest)
  | none =>
    match type? cs with
    | some (type, rest) => some (.unnamed [type], rest)
    | none => some (.nil, cs)

/-- Reads the parameters and the results of a function. -/
def signature? (type? : Reads GoType) (cs : List Char) : Option (GoType × List Char) := do
  let rest ← sign? '(' cs
  let (types, rest) ← parts? ',' ')' type? rest.length.succ rest
  let (results, rest) ← results? type? rest
  some (.func (.unnamed types) results, rest)

/-- Reads members with a name in front of each, between braces. -/
def members? (type? : Reads GoType) (cs : List Char) : Option (Members × List Char) := do
  let rest ← sign? '\x7b' cs
  let (members, rest) ← parts? ';' '\x7d' (fun cs =>
    let (member, rest) := name cs
    if member = "" then none else do
      let (type, rest) ← type? rest
      some ((member, type), rest)) rest.length.succ rest
  some (.ofList members, rest)

/-- Reads the element behind the sign of a type that is built from one. -/
def builtFrom? (type? : Reads GoType) (build : GoType → GoType) (cs : List Char) :
    Option (GoType × List Char) := do
  let (type, rest) ← type? cs
  some (build type, rest)

/-- Reads a type behind an opening bracket: a slice, or an array with its length. -/
def bracketed? (type? : Reads GoType) (cs : List Char) : Option (GoType × List Char) :=
  match sign? ']' cs with
  | some rest => builtFrom? type? .slice rest
  | none => do
    let (digits, rest) := name cs
    let length ← digits.toNat?
    let rest ← sign? ']' rest
    builtFrom? type? (.array length) rest

/-- Reads a map behind its word. -/
def map? (type? : Reads GoType) (cs : List Char) : Option (GoType × List Char) := do
  let rest ← sign? '[' cs
  let (key, rest) ← type? rest
  let rest ← sign? ']' rest
  builtFrom? type? (.map key) rest

/-- Reads a type that begins with a word. -/
def worded? (s : Scope) (type? : Reads GoType) (cs : List Char) : Option (GoType × List Char) :=
  match name cs with
  | ("", _) => none
  | ("map", rest) => map? type? rest
  | ("chan", rest) => builtFrom? type? .chan rest
  | ("func", rest) => signature? type? rest
  | ("struct", rest) => do
    let (fields, rest) ← members? type? rest
    some (.struct s.package fields, rest)
  | ("interface", rest) => do
    let (methods, rest) ← members? (signature? type?) rest
    some (.interface s.package methods, rest)
  | (word, rest) => some (s.typeOf word, rest)

/-- Reads a type down to a depth. -/
def type? (s : Scope) : Nat → Reads GoType
  | 0, _ => none
  | fuel + 1, cs =>
    match skipBlanks cs with
    | '*' :: rest => builtFrom? (s.type? fuel) .pointer rest
    | '[' :: rest => bracketed? (s.type? fuel) rest
    | '(' :: rest => do
      let (type, rest) ← s.type? fuel rest
      let rest ← sign? ')' rest
      some (type, rest)
    | rest => s.worded? (s.type? fuel) rest

/-- The type that a text means. -/
def typeOfText? (s : Scope) (cs : List Char) : Option GoType :=
  match s.type? (cs.length + 1) cs with
  | some (type, rest) => if (skipBlanks rest).isEmpty then some type else none
  | none => none

/-- The type that a text means; one that is no type counts as a name. -/
def typeOfText (s : Scope) (cs : List Char) : GoType :=
  (s.typeOfText? cs).getD (s.typeOf (String.ofList cs))

/-- The call of a function by its name, which may be followed by a type argument between
    brackets. -/
def callOf (s : Scope) (package function : String) (passed : Members) : Call :=
  let name := function.toList.takeWhile (· != '[')
  match function.toList.drop name.length with
  | [] => .function package function none passed
  | _ :: rest =>
    .function package (String.ofList name) (some (s.typeOfText rest.dropLast)) passed

end Scope

end TaintSeed.GoProgram
