import TaintSeed.GoProgram.Declaration

/-!
# Go Packages

Packages as they are written: their types, and their functions with the calls
in their bodies. A generic function has one type parameter, and an instance of
it has a type argument in the place of that.

## Main definitions

* `Call`: A call in a body.
* `FuncDecl`: A function or a method.
* `Package`: A package.
* `Call.instantiate`: Replaces the type parameter in a call.
-/

namespace TaintSeed.GoProgram

/-- The receiver of a method. -/
structure Receiver where
  /-- The name of its type. -/
  type : String
  /-- Whether it is a pointer. -/
  isPointer : Bool
deriving DecidableEq, Inhabited

/-- The star of a pointer. -/
def Receiver.star (r : Receiver) : String := if r.isPointer then "*" else ""

/-- A call in a body. -/
inductive Call where
  /-- Of a function of a package, perhaps for a type argument. -/
  | function (package name : String) (argument? : Option GoType) (passed : Members)
  /-- Of a method of a variable. -/
  | method (type : GoType) (name : String) (passed : Members)
  /-- Of a variable that holds a function. -/
  | value (params : Members)
  /-- Of a generic function as it is written, by one of its instances. -/
  | generic (package name : String)
  /-- Of what has to be done before a package is used. -/
  | initializer (package : String)
deriving Inhabited

/-- A function or a method. -/
structure FuncDecl where
  /-- The name. -/
  name : String
  /-- The receiver, if it is a method. -/
  receiver? : Option Receiver
  /-- Whether it has a type parameter. -/
  isGeneric : Bool
  /-- The parameters. -/
  params : Members
  /-- The results. -/
  results : Members
  /-- The calls in its body, if it has one. -/
  body? : Option (List Call)
deriving Inhabited

/-- A package. -/
structure Package where
  /-- The path. -/
  path : String
  /-- The name. -/
  name : String
  /-- The types. -/
  types : List TypeDecl
  /-- The functions and methods. -/
  funcs : List FuncDecl
deriving Inhabited

/-- The name of the type parameter of generic functions. -/
def typeParamName : String := "T"

/-- How a function of a package is called in messages. -/
def functionTitle (package name : String) : String := package ++ "." ++ name

/-- The meaning of type parameters in an instance of a generic function: those of other functions
    stand for themselves. -/
def bound (function : String) (argument : GoType) (other name : String) : GoType :=
  if other = function then argument else .typeParam other name

/-- Replaces type parameters in a call. -/
def Call.instantiate (arguments : String → String → GoType) : Call → Call
  | .function package name argument? passed =>
    .function package name (argument?.map (GoType.instantiate arguments))
      (passed.instantiate arguments)
  | .method type name passed =>
    .method (type.instantiate arguments) name (passed.instantiate arguments)
  | .value params => .value (params.instantiate arguments)
  | .generic package name => .generic package name
  | .initializer package => .initializer package

/-- Whether a call mentions a built-in type. -/
def Call.mentions (name : String) : Call → Bool
  | .function _ _ argument? passed => argument?.any (GoType.mentions name) || passed.mentions name
  | .method type _ passed => type.mentions name || passed.mentions name
  | .value params => params.mentions name
  | .generic _ _ => false
  | .initializer _ => false

/-- The path of the package for raw memory. -/
def unsafePath : String := "unsafe"

/-- The type of that package. -/
def unsafePointer : String := "unsafe.Pointer"

namespace Package

/-- The calls in all bodies. -/
def calls (p : Package) : List Call := p.funcs.flatMap (fun f => f.body?.getD [])

/-- Whether the package needs the one for raw memory. -/
def usesUnsafe (p : Package) : Bool :=
  p.types.any (fun t => t.type.mentions unsafePointer) ||
    p.funcs.any (fun f => f.params.mentions unsafePointer || f.results.mentions unsafePointer) ||
    p.calls.any (Call.mentions unsafePointer)

/-- The packages whose functions are called. -/
def imports (p : Package) : List String :=
  (p.calls.filterMap (fun c =>
    match c with
    | .function package _ _ _ => if package = p.path then none else some package
    | _ => none)) ++ if p.usesUnsafe then [unsafePath] else []

end Package

end TaintSeed.GoProgram
