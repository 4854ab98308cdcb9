import TaintSeed.TypeRef.Basic

/-!
# Descriptors

The compact notation of types in compiled code. A descriptor is a number of
opening brackets, one for each dimension of an array, and a base: a single
letter for a primitive type, or `L`, the name of a class with slashes between
its parts, and a semicolon.

Reading never fails. Text that is no descriptor becomes a reference of unknown
kind that keeps the text as its name, so that later messages can show it.

## Main definitions

* `Descriptor.primitives`: The letters of the primitive types.
* `TypeRef.ofDescriptor`: Reads a descriptor.
* `TypeRef.isDescriptor`: Whether a reference is what its name says as a descriptor.
* `TypeRef.arrayOf`: The array of a type, in the notation of the type.
* `TypeRef.sourceName`: The name of a type as a programmer writes it.
-/

namespace TaintSeed

namespace Descriptor

/-- The letters of the primitive types, with their names in source text. -/
def primitives : List (Char × String) :=
  [('B', "byte"), ('C', "char"), ('D', "double"), ('F', "float"), ('I', "int"), ('J', "long"),
   ('S', "short"), ('Z', "boolean"), ('V', "void")]

/-- The name in source text of the primitive type of a letter. -/
def primitiveName? (letter : Char) : Option String :=
  (primitives.find? (fun e => e.1 == letter)).map Prod.snd

/-- The letter of the primitive type of that name in source text. -/
def primitiveLetter? (name : String) : Option Char :=
  (primitives.find? (fun e => e.2 == name)).map Prod.fst

/-- Whether the character is a dimension of an array. -/
def isDimension (c : Char) : Bool := c == '['

/-- The number of leading dimensions. -/
def dimensions (d : List Char) : Nat := (d.takeWhile isDimension).length

/-- What follows the leading dimensions. -/
def base (d : List Char) : List Char := d.dropWhile isDimension

/-- The kind of a base: one letter of a primitive type, or a class name of at least one
    character between `L` and a semicolon. -/
def baseKind : List Char → TypeKind
  | [] => .unknown
  | [c] => if (primitiveName? c).isSome then .primitive else .unknown
  | c :: rest =>
    if c == 'L' && 2 ≤ rest.length && rest.getLast? == some ';' then .reference else .unknown

/-- The kind of a whole descriptor: that of the base, unless there are dimensions. -/
def kind (d : List Char) : TypeKind :=
  if baseKind (base d) = .unknown then .unknown
  else if 0 < dimensions d then .array
  else baseKind (base d)

end Descriptor

namespace TypeRef

/-- Reads a descriptor. What is none becomes a reference of unknown kind. -/
def ofDescriptor (d : String) : TypeRef := ⟨d, Descriptor.kind d.toList⟩

/-- Whether the name is a descriptor of just this kind. -/
def isDescriptor (t : TypeRef) : Bool :=
  t.kind != .unknown && t.name != "" && ofDescriptor t.name == t

/-- The array whose members have type `t`. A descriptor gets one more dimension in front, any
    other name gets a pair of brackets behind. -/
def arrayOf (t : TypeRef) : TypeRef :=
  if t.isDescriptor then ⟨"[" ++ t.name, .array⟩ else ⟨t.name ++ "[]", .array⟩

/-- The base of a descriptor as a programmer writes it: the name of the primitive type, or the
    class name with dots for slashes. -/
def sourceBase : List Char → String
  | [] => ""
  | c :: rest =>
    if c == 'L' then
      String.ofList (rest.dropLast.map (fun x => if x == '/' then '.' else x))
    else (Descriptor.primitiveName? c).getD ""

/-- A pair of brackets for each dimension. -/
def brackets (n : Nat) : String := String.join (List.replicate n "[]")

/-- The name of the type as a programmer writes it. A name that is no descriptor is already
    written so. -/
def sourceName (t : TypeRef) : String :=
  if t.isDescriptor then
    sourceBase (Descriptor.base t.name.toList) ++ brackets (Descriptor.dimensions t.name.toList)
  else t.name

end TypeRef

end TaintSeed
