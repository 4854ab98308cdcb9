/-!
# Type References

A reference to a type of the analyzed program: a name and a kind. The name of
a type that was written as a descriptor is the descriptor itself; other
notations keep the name they came with. The kind decides what the analysis
does with a value of the type, and it is part of the reference, so the same
name with two kinds is two references.

A kind that comes from outside may be a number that stands for none of the
four kinds. It is kept, because it makes the reference differ from all others,
and is treated like the unknown kind.

## Main definitions

* `TypeKind`: What a type is: primitive, array, reference or unknown.
* `TypeRef`: A name with a kind.
-/

namespace TaintSeed

/-- What a type is, as far as the analysis cares. -/
inductive TypeKind where
  /-- The kind of malformed and unsupported types. -/
  | unknown
  /-- Numbers, characters and truth values. -/
  | primitive
  /-- Arrays of any dimension. -/
  | array
  /-- Classes and interfaces. -/
  | reference
  /-- A number that stands for no kind. -/
  | other (code : Int)
deriving DecidableEq, Inhabited

namespace TypeKind

/-- The word for a kind. -/
def text : TypeKind → String
  | .primitive => "primitive"
  | .array => "array"
  | .reference => "reference"
  | .unknown => "unknown"
  | .other _ => "unknown"

end TypeKind

/-- A reference to a type. -/
structure TypeRef where
  /-- The name, which is the descriptor for a type that has one. -/
  name : String
  /-- What the type is. -/
  kind : TypeKind
deriving DecidableEq

namespace TypeRef

instance : Inhabited TypeRef := ⟨⟨"", .unknown⟩⟩

/-- The reference to the class or interface of that name. -/
def ofClass (name : String) : TypeRef := ⟨name, .reference⟩

/-- The reference to the primitive type of that name. -/
def ofPrimitive (name : String) : TypeRef := ⟨name, .primitive⟩

/-- Whether the type is primitive. -/
def isPrimitive (t : TypeRef) : Bool := t.kind == .primitive

/-- Whether the type is an array. -/
def isArray (t : TypeRef) : Bool := t.kind == .array

/-- Whether the type is a class or an interface. -/
def isReference (t : TypeRef) : Bool := t.kind == .reference

/-- Whether the reference names nothing. -/
def isNameless (t : TypeRef) : Bool := t.name == ""

end TypeRef

end TaintSeed
