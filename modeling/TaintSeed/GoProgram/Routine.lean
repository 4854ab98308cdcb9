import TaintSeed.GoProgram.Code
import TaintSeed.GoProgram.Inference
import TaintSeed.GoProgram.Mode
import TaintSeed.GoProgram.Package

/-!
# Routines

What is executed in a Go program. Beside the functions that are written there
are the initializers of packages, generic functions with their type parameter
replaced, and wrappers, which give a pointer the methods of what it points to.

The program consists of all functions and initializers, the methods of exported
types, and whatever these call where the target of the call is known.

A generic function has one instance for all spellings of a type argument, and
the instance has the spelling that is met first. For that the bodies of all
functions are read in order, package by package, and then those of the instances
they need; whether something calls the functions makes no difference.

## Main definitions

* `Routine`: Something that is executed.
* `Packages.instances`: The instances of generic functions.
* `Packages.routines`: The routines of a program.
* `Packages.targets`: Where a call leads.
* `Packages.code`: The routines and the calls between them.
-/

namespace TaintSeed.GoProgram

/-- Where a routine comes from. -/
inductive Routine.Origin where
  /-- It is written. -/
  | written
  /-- It prepares a package. -/
  | initializer
  /-- It gives a pointer a method of what it points to. -/
  | wrapper
  /-- It is a generic function for a type argument. -/
  | instantiated
deriving DecidableEq, Inhabited

/-- Something that is executed. -/
structure Routine where
  /-- The path of the package. -/
  package : String
  /-- The name of the package. -/
  packageName : String
  /-- The receiver, if it is a method. -/
  receiver? : Option Receiver
  /-- The name. -/
  name : String
  /-- The type argument, if it is an instance of a generic function. -/
  argument? : Option GoType
  /-- Whether it has a type parameter. -/
  isGeneric : Bool
  /-- The parameters. -/
  params : Members
  /-- The results. -/
  results : Members
  /-- Where it comes from. -/
  origin : Routine.Origin
  /-- The number of basic blocks. -/
  blocks : Nat
  /-- The calls in its body. -/
  calls : List Call
deriving Inhabited

namespace Routine

/-- A function or a method as it is written. -/
def written (p : Package) (f : FuncDecl) : Routine :=
  ⟨p.path, p.name, f.receiver?, f.name, none, f.isGeneric, f.params, f.results, .written,
    if f.body?.isSome then 1 else 0, f.body?.getD []⟩

/-- The method of a pointer that calls that of what it points to. -/
def wrapper (p : Package) (f : FuncDecl) (r : Receiver) : Routine :=
  ⟨p.path, p.name, some ⟨r.type, true⟩, f.name, none, false, f.params, f.results, .wrapper, 1,
    [.method (.named p.path r.type) f.name f.params]⟩

/-- A generic function for a type argument. It has a body of its own only if the argument depends
    on no type parameter; otherwise it calls the generic function. -/
def instantiated (p : Package) (f : FuncDecl) (argument : GoType) : Routine :=
  let arguments := bound (functionTitle p.path f.name) argument
  ⟨p.path, p.name, none, f.name, some argument, false,
    f.params.instantiate arguments, f.results.instantiate arguments, .instantiated,
    if argument.isOpen || f.body?.isSome then 1 else 0,
    if argument.isOpen then [.generic p.path f.name]
    else (f.body?.getD []).map (Call.instantiate arguments)⟩

/-- The initializer of a package, which calls those of the packages it uses. -/
def initializer (p : Package) : Routine :=
  ⟨p.path, p.name, none, "init", none, false, .nil, .nil, .initializer, 3,
    p.imports.map Call.initializer⟩

/-- The initializer of the package for raw memory. -/
def unsafeInitializer : Routine :=
  ⟨unsafePath, unsafePath, none, "init", none, false, .nil, .nil, .initializer, 0, []⟩

/-- The name with a type argument, which is written in some way. -/
def nameWith (r : Routine) (write : GoType → String) : String :=
  match r.argument? with
  | none => r.name
  | some argument => r.name ++ "[" ++ write argument ++ "]"

/-- The title of a routine with that name. -/
def titleOf (r : Routine) (name : String) : String :=
  match r.receiver? with
  | none => functionTitle r.package name
  | some v => "(" ++ v.star ++ r.package ++ "." ++ v.type ++ ")." ++ name

/-- How the routine is called in messages. -/
def title (r : Routine) : String := r.titleOf (r.nameWith GoType.text)

/-- What tells the routine from all others. Two of them may have the same title, because type
    parameters of different functions look the same. -/
def key (r : Routine) : String := r.titleOf (r.nameWith (fun t => t.compared.text))

/-- The text of type parameters. -/
def typeParamText (r : Routine) : String :=
  if r.isGeneric then "[" ++ typeParamName ++ " interface\x7b\x7d]" else ""

/-- The reference of the routine. -/
def method (r : Routine) : MethodRef :=
  ⟨r.package,
    match r.receiver? with
    | none => ""
    | some v => v.star ++ v.type,
    r.nameWith GoType.text, r.typeParamText ++ GoType.signature r.params r.results⟩

/-- The type of a receiver. -/
def receiverType (package : String) (v : Receiver) : GoType :=
  if v.isPointer then .pointer (.named package v.type) else .named package v.type

/-- The types of the parameters, the receiver first. -/
def paramTypes (r : Routine) : List GoType :=
  (r.receiver?.map (receiverType r.package)).toList ++ r.params.types

/-- Whether the program starts here: in the initializer or the function of the main package. -/
def isStart (r : Routine) : Bool :=
  (r.origin == .written || r.origin == .initializer) && r.packageName == "main" &&
    (r.name == "main" || r.name == "init")

/-- The routine as a function of the code. -/
def function (r : Routine) : Function :=
  ⟨r.title, r.method, r.paramTypes, r.blocks, r.origin != .written, r.isStart⟩

end Routine

/-- The packages of a program. -/
structure Packages where
  /-- The packages. -/
  list : List Package
deriving Inhabited

namespace Packages

/-- The declared types. -/
def declarations (ps : Packages) : Declarations := ⟨ps.list.flatMap (·.types), GoType.text⟩

/-- The package of a path. -/
def find? (ps : Packages) (path : String) : Option Package := ps.list.find? (·.path == path)

/-- The function of a package. -/
def funcOf? (p : Package) (name : String) : Option FuncDecl :=
  p.funcs.find? (fun f => f.receiver?.isNone && f.name == name)

/-- The method of a type. -/
def methodOf? (p : Package) (type name : String) : Option FuncDecl :=
  p.funcs.find? (fun f => f.receiver?.any (·.type == type) && f.name == name)

/-- The routine that a call leads to, if that is known. -/
def knownTarget? (ps : Packages) : Call → Option Routine
  | .function path name argument? passed => do
    let p ← ps.find? path
    let f ← funcOf? p name
    let argument? := if f.isGeneric then
      argument?.or (f.params.argument? ps.declarations passed) else argument?
    match argument? with
    | none => some (.written p f)
    | some argument => some (.instantiated p f argument)
  | .method type name _ =>
    match type.pointee with
    | .named path typeName =>
      if ps.declarations.isInterface type.pointee then none
      else do
        let p ← ps.find? path
        let f ← methodOf? p typeName name
        some (.written p f)
    | _ => none
  | .value _ => none
  | .generic path name => do
    let p ← ps.find? path
    let f ← funcOf? p name
    some (.written p f)
  | .initializer path =>
    if path = unsafePath then some .unsafeInitializer else (ps.find? path).map .initializer

/-- The routines of a method of an exported type. -/
def ofMethod (p : Package) (f : FuncDecl) (r : Receiver) : List Routine :=
  if isExported r.type then
    -- A method on values can be called through a pointer as well, which takes a wrapper.
    .written p f :: if r.isPointer then [] else [.wrapper p f r]
  else []

/-- The routines that belong to a package even if nothing calls them. -/
def ofPackage (p : Package) : List Routine :=
  .initializer p :: p.funcs.flatMap (fun f =>
    match f.receiver? with
    | none => [.written p f]
    | some r => ofMethod p f r)

/-- Adds routines that are not yet there. -/
def addNew (known more : List Routine) : List Routine :=
  more.foldl (fun rs r => if rs.any (·.key == r.key) then rs else rs ++ [r]) known

/-- Where the calls of routines are known to lead. -/
def knownTargets (ps : Packages) (rs : List Routine) : List Routine :=
  rs.flatMap (fun r => r.calls.filterMap ps.knownTarget?)

/-- Adds, round by round, the instances that routines need, then those that these need. -/
def addInstances (ps : Packages) : Nat → List Routine → List Routine → List Routine
  | 0, known, _ => known
  | fuel + 1, known, users =>
    let next := addNew known ((ps.knownTargets users).filter (·.origin == .instantiated))
    if next.length = known.length then known
    else ps.addInstances fuel next (next.drop known.length)

/-- More than the number of functions and calls. -/
def rounds (ps : Packages) : Nat :=
  (ps.list.map (fun p => p.funcs.length + p.calls.length)).foldr (· + ·) 0 + 1

/-- The instances of generic functions, each with the spelling of its type argument that is met
    first. No chain of instances is longer than the number of functions. -/
def instances (ps : Packages) : List Routine :=
  ps.list.foldl (fun known p => ps.addInstances ps.rounds known (p.funcs.map (.written p))) []

/-- The instance with the same type argument, if the routine is one. -/
def spelled (instances : List Routine) (r : Routine) : Routine :=
  if r.origin == .instantiated then (instances.find? (·.key == r.key)).getD r else r

/-- Adds, round by round, what is called by routines that are there. -/
def grow (ps : Packages) (instances : List Routine) : Nat → List Routine → List Routine
  | 0, known => known
  | fuel + 1, known =>
    let next := addNew known ((ps.knownTargets known).map (spelled instances))
    if next.length = known.length then known else ps.grow instances fuel next

/-- The routines of a program. -/
def routines (ps : Packages) : List Routine :=
  let start := addNew [] (ps.list.flatMap ofPackage ++
    if ps.list.any Package.usesUnsafe then [.unsafeInitializer] else [])
  -- Every function is reached within as many rounds as there are functions, and from there on
  -- each call hands a type argument on at most once.
  ps.grow ps.instances ps.rounds start

/-- Whether a type has a method of an interface that is written in a package: of the same name
    and of an identical type. Other packages cannot have methods of names that are not
    exported. -/
def hasMethod (p : Package) (v : Receiver) (package : String) (m : String × GoType) : Bool :=
  (isExported m.1 || package == p.path) &&
    (methodOf? p v.type m.1).any (fun f =>
      (v.isPointer || f.receiver?.any (!·.isPointer)) &&
        GoType.identical (.func f.params f.results) m.2)

/-- Whether the receiver's type has all methods of an interface that is written in a package. -/
def implements (ps : Packages) (path : String) (v : Receiver) (package : String)
    (methods : Members) : Bool :=
  (ps.find? path).any (fun p => methods.toList.all (hasMethod p v package))

/-- Whether a call of a method of an interface can lead to a routine. -/
def canBeMethod (ps : Packages) (type : GoType) (name : String) (r : Routine) : Bool :=
  match ps.declarations.underlying type, r.receiver? with
  | .interface package methods, some v =>
    r.name == name && ps.implements r.package v package methods
  | _, _ => false

/-- Whether a call of a function value can lead to a routine. -/
def canBeValue (params : Members) (r : Routine) : Bool :=
  r.receiver?.isNone && r.origin != .initializer && !r.isGeneric &&
    GoType.identical (.func r.params r.results) (.func params .nil)

/-- Where a call leads among the routines. -/
def targets (ps : Packages) (mode : Mode) (rs : List Routine) (c : Call) : List Routine :=
  match mode, c with
  | .classHierarchy, .method type name _ =>
    (ps.knownTarget? c).toList ++ rs.filter (ps.canBeMethod type name)
  | .classHierarchy, .value params => rs.filter (canBeValue params)
  | _, _ => (ps.knownTarget? c).toList

/-- The position of a routine. -/
def positionOf (rs : List Routine) (r : Routine) : Nat := rs.findIdx (·.key == r.key)

/-- The routines and the calls between them. -/
def code (ps : Packages) (mode : Mode) : Code :=
  let rs := ps.routines
  { functions := rs.map Routine.function
    calls := rs.zipIdx.flatMap (fun r =>
      r.1.calls.flatMap (fun c =>
        (ps.targets mode rs c).map (fun t => (r.2, positionOf rs t)))) }

end Packages

end TaintSeed.GoProgram
