import TaintSeed.Reference

/-!
# Class Hierarchies

The classes and interfaces of a program, each with the name of its superclass
and the fields that it declares itself. A hierarchy is made from a list of
declarations and is refused when a name is declared twice or when a class is
its own ancestor, so in an accepted hierarchy the way up from any class ends.
A superclass that is not declared ends it too: its fields are not known.

The way up is walked with a bound on the number of steps, one more than there
are classes. In an accepted hierarchy the bound is never met.

## Main definitions

* `ClassDecl`: The declaration of a class or an interface.
* `Hierarchy`: An accepted list of declarations.
* `Hierarchy.ofClasses`: Accepts or refuses a list of declarations.
* `Hierarchy.lookup`: The object that stands for all objects of a type.
* `Hierarchy.instanceFields`: The fields of an object of a type, inherited ones first.
-/

namespace TaintSeed

/-- The declaration of a field. -/
structure FieldDecl where
  /-- The name of the field. -/
  name : String
  /-- The declared type. -/
  type : TypeRef
deriving DecidableEq, Inhabited

/-- The declaration of a class or an interface. -/
structure ClassDecl where
  /-- The name, which is the name of the type references to the class. -/
  name : String
  /-- The name of the superclass, empty for a class without one. -/
  super : String
  /-- Whether it is an interface. -/
  isInterface : Bool
  /-- The fields that the class declares itself. -/
  fields : List FieldDecl
deriving DecidableEq, Inhabited

namespace ClassDecl

/-- The references to the fields that the class declares itself. -/
def fieldRefs (c : ClassDecl) : List FieldRef := c.fields.map (fun f => ⟨c.name, f.name, f.type⟩)

/-- The declaration of a class, by its name. -/
def find? (classes : List ClassDecl) (name : String) : Option ClassDecl :=
  classes.find? (fun c => c.name == name)

/-- The declared classes on the way up from `name`, which is the first of them. Nothing if the
    way comes back to one of the classes in `seen`, or takes more than `steps` steps. -/
def ancestors? (classes : List ClassDecl) : Nat → List String → String → Option (List ClassDecl)
  | 0, _, _ => none
  | steps + 1, seen, name =>
    match find? classes name with
    | none => some []
    | some c =>
      if c.name ∈ seen then none
      else if c.super = "" then some [c]
      else (ancestors? classes steps (c.name :: seen) c.super).map (fun up => c :: up)

/-- The class of that name with its declared superclasses; nothing if they form a cycle. -/
def superChain? (classes : List ClassDecl) (name : String) : Option (List ClassDecl) :=
  ancestors? classes (classes.length + 1) [] name

/-- The first name that stands before an equal one. -/
def firstRepeated? (earlier : List String) : List ClassDecl → Option String
  | [] => none
  | c :: cs => if c.name ∈ earlier then some c.name else firstRepeated? (c.name :: earlier) cs

end ClassDecl

/-- The classes of a program. -/
structure Hierarchy where
  /-- The declarations. -/
  classes : List ClassDecl
  /-- No name is declared twice. -/
  distinct : ClassDecl.firstRepeated? [] classes = none
  /-- No class is its own ancestor. -/
  acyclic : ∀ c ∈ classes, (ClassDecl.superChain? classes c.name).isSome = true

namespace Hierarchy

instance : Inhabited Hierarchy := ⟨⟨[], rfl, fun _ h => absurd h List.not_mem_nil⟩⟩

/-- Why a list of declarations is no hierarchy. -/
inductive Malformed where
  /-- A name is declared twice. -/
  | declaredTwice (name : String)
  /-- A class is its own ancestor. -/
  | cyclic (name : String)
deriving DecidableEq

/-- The wording of the refusal. -/
def Malformed.message : Malformed → String
  | .declaredTwice name => "class " ++ name ++ " declared twice"
  | .cyclic name => "cycle in the superclasses of " ++ name

/-- Accepts a list of declarations, unless a name is repeated or superclasses form a cycle. -/
def ofClasses (classes : List ClassDecl) : Except Malformed Hierarchy :=
  match hd : ClassDecl.firstRepeated? [] classes with
  | some name => .error (.declaredTwice name)
  | none =>
    match hc : classes.find? (fun c => (ClassDecl.superChain? classes c.name).isNone) with
    | some c => .error (.cyclic c.name)
    | none => .ok ⟨classes, hd, fun c hm => by
        have h := List.find?_eq_none.1 hc c hm
        simpa [Option.isSome_iff_ne_none] using h⟩

/-- The declaration of a class, by its name. -/
def find? (h : Hierarchy) (name : String) : Option ClassDecl := ClassDecl.find? h.classes name

/-- The number of classes. -/
def size (h : Hierarchy) : Nat := h.classes.length

/-- Why no object stands for all objects of a type. -/
inductive LookupFailure where
  /-- The class is not declared. -/
  | undeclared (t : TypeRef)
  /-- The type is an interface, so its objects have other types. -/
  | isInterface (t : TypeRef)
  /-- The type is neither an array nor a class. -/
  | notAClass (t : TypeRef)
deriving DecidableEq

/-- The wording of the failure. -/
def LookupFailure.message : LookupFailure → String
  | .undeclared t => "unknown class: " ++ t.name
  | .isInterface t => "type has no concrete instance: " ++ t.name ++ " is an interface"
  | .notAClass t => "unknown class: " ++ t.name ++ " is a " ++ t.kind.text ++ " type"

/-- The object that stands for all objects of an array type or of a declared class. -/
def lookup (h : Hierarchy) (t : TypeRef) : Except LookupFailure Instance :=
  match t.kind with
  | .array => .ok (.ofType t)
  | .reference =>
    match h.find? t.name with
    | none => .error (.undeclared t)
    | some c => if c.isInterface then .error (.isInterface t) else .ok (.ofType t)
  | _ => .error (.notAClass t)

/-- Whether the type is a declared interface. -/
def isInterface (h : Hierarchy) (t : TypeRef) : Bool :=
  match h.find? t.name with
  | none => false
  | some c => t.isReference && c.isInterface

/-- The fields of the objects of a class: those of the superclass first, each tagged with the
    class that declares it. -/
def instanceFields (h : Hierarchy) (t : TypeRef) : List FieldRef :=
  if t.isReference then
    ((ClassDecl.superChain? h.classes t.name).getD []).reverse.flatMap ClassDecl.fieldRefs
  else []

end Hierarchy

end TaintSeed
