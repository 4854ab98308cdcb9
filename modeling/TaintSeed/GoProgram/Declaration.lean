import TaintSeed.GoProgram.Type
import TaintSeed.TypeRef.Basic

/-!
# Declared Types

What declared types stand for, and what kind of values a type has. A type that
is declared as another declared type stands for whatever that stands for.

A type refers to objects if it stands for a structure or an interface, or if it
is a pointer to such a type; the pointer has then the name of what it points
to. A type parameter counts as an interface here, but its kind is not known.

Classes are named by the texts of types, and whoever declares the types knows how
they are written. Nothing here depends on it, but a class stands for one type
only if the texts of structures and interfaces tell them apart.

## Main definitions

* `Declarations`: Types with what they are declared as.
* `Declarations.underlying`: What a type stands for.
* `Declarations.kind`: The kind of the values of a type.
* `Declarations.ref`: The name and the kind of a type.
* `Declarations.object?`: The structure or interface that a type refers to.
-/

namespace TaintSeed.GoProgram

/-- The declaration of a type. -/
structure TypeDecl where
  /-- The path of the package. -/
  package : String
  /-- The name. -/
  name : String
  /-- What the type is declared as. -/
  type : GoType
deriving Inhabited

/-- Declared types, and how types are written. -/
structure Declarations where
  /-- The declarations. -/
  decls : List TypeDecl
  /-- The text of a type. It may show more of the type than its parts. -/
  written : GoType → String
deriving Inhabited

namespace Declarations

/-- The declared types that are built in. -/
def builtin : List TypeDecl :=
  [⟨"", "error",
    .interface "" (.cons "Error" (.func .nil (.cons "" (.basic "string") .nil)) .nil)⟩,
   ⟨"", "any", .interface "" .nil⟩]

/-- What a type is declared as. -/
def find? (d : Declarations) (package name : String) : Option GoType :=
  ((d.decls ++ builtin).find? (fun t => t.package == package && t.name == name)).map (·.type)

/-- Follows declarations for a number of steps. -/
def follow (d : Declarations) : Nat → GoType → GoType
  | 0, t => t
  | fuel + 1, t =>
    match t with
    | .named package name =>
      match d.find? package name with
      | some u => d.follow fuel u
      | none => t
    | _ => t

/-- What a type stands for. No chain of declarations is longer than their number. -/
def underlying (d : Declarations) (t : GoType) : GoType :=
  d.follow (d.decls.length + builtin.length) t

/-- Whether a type stands for an interface. -/
def isInterface (d : Declarations) (t : GoType) : Bool :=
  match d.underlying t with
  | .interface _ _ => true
  | _ => false

/-- The kind of the values of a type that is no declared one. -/
def plainKind : GoType → TypeKind
  | .basic name => if name = "unsafe.Pointer" then .reference else .primitive
  | .slice _ => .array
  | .array _ _ => .array
  | .typeParam _ _ => .unknown
  | _ => .reference

/-- The kind of the values of a type. -/
def kind (d : Declarations) (t : GoType) : TypeKind := plainKind (d.underlying t)

/-- Whether a pointer to the type has the name and the kind of the type. -/
def isPointee (d : Declarations) (t : GoType) : Bool :=
  match d.underlying t with
  | .struct _ _ => true
  | .interface _ _ => true
  | .typeParam _ _ => true
  | _ => false

/-- The name and the kind of a type. -/
def ref (d : Declarations) (t : GoType) : TypeRef :=
  match t with
  | .pointer elem => if d.isPointee elem then ⟨d.written elem, d.kind elem⟩ else .ofClass (d.written t)
  | _ => ⟨d.written t, d.kind t⟩

/-- A structure or an interface. -/
structure Object where
  /-- How its type is written. -/
  name : String
  /-- Whether it is an interface. -/
  isInterface : Bool
  /-- Its fields. -/
  fields : Members

/-- The structure or interface that a type stands for. -/
def direct? (d : Declarations) (t : GoType) : Option Object :=
  match d.underlying t with
  | .struct _ fields => some ⟨d.written t, false, fields⟩
  | .interface _ _ => some ⟨d.written t, true, .nil⟩
  | _ => none

/-- The structure or interface that a type refers to, through at most one pointer. -/
def object? (d : Declarations) (t : GoType) : Option Object :=
  match d.underlying t with
  | .pointer elem => d.direct? elem
  | _ => d.direct? t

end Declarations

end TaintSeed.GoProgram
