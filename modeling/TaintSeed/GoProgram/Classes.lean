import TaintSeed.GoProgram.Declaration
import TaintSeed.Hierarchy

/-!
# Classes of a Go Program

The structures and interfaces that are met when types are walked through: each
gives a class of the hierarchy, and the types of its fields are walked through
too. There is no inheritance, so no class has a superclass.

A class is listed before its fields are walked through, so a structure that
contains itself is met only once. Hence the walk goes no deeper than there are
structures, which is less than the number of types that everything is made of.

## Main definitions

* `Declarations.classOf`: The class of a structure or an interface.
* `Declarations.meet`: Adds the classes that a type leads to.
* `Declarations.classes`: The classes that types lead to.
-/

namespace TaintSeed.GoProgram.Declarations

/-- The class of a structure or an interface. -/
def classOf (d : Declarations) (o : Object) : ClassDecl where
  name := o.name
  super := ""
  isInterface := o.isInterface
  fields := o.fields.toList.map (fun f => ⟨f.1, d.ref f.2⟩)

/-- Whether a class of that name is listed. -/
def isListed (classes : List ClassDecl) (name : String) : Bool :=
  classes.any (fun c => c.name == name)

/-- Adds the classes that a type leads to, down to a depth. -/
def meet (d : Declarations) : Nat → List ClassDecl → GoType → List ClassDecl
  | 0, classes, _ => classes
  | fuel + 1, classes, t =>
    match d.object? t with
    | none => classes
    | some o =>
      if isListed classes o.name then classes
      else o.fields.types.foldl (d.meet fuel) (classes ++ [d.classOf o])

/-- More than the number of structures and interfaces that can be met from a type. -/
def depth (d : Declarations) (t : GoType) : Nat :=
  ((d.decls ++ builtin).map (fun c => c.type.size + 1)).foldr (· + ·) 0 + t.size + 1

/-- The classes that types lead to. -/
def classes (d : Declarations) (types : List GoType) : List ClassDecl :=
  types.foldl (fun classes t => d.meet (d.depth t) classes t) []

end TaintSeed.GoProgram.Declarations
