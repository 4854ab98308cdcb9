import TaintSeed.TypeRef.Basic

/-!
# References to Program Entities

The names by which the analysis speaks of fields, methods and objects. They
are plain values: two references are the same entity when their parts are
equal, and nothing has to be looked up to compare them.

## Main definitions

* `NodeId`: The number of a node of a call graph.
* `FieldRef`: A field of a class.
* `MethodRef`: A method of a class.
* `Instance`: An abstract object, by its type and its allocation site.
-/

namespace TaintSeed

/-- The number of a node of a call graph. -/
abbrev NodeId := Int

/-- A field, named by the class that declares it. -/
structure FieldRef where
  /-- The name of the declaring class. -/
  owner : String
  /-- The name of the field. -/
  name : String
  /-- The declared type of the field. -/
  type : TypeRef
deriving DecidableEq, Inhabited

namespace FieldRef

/-- The class and the name with a dot between them. -/
def text (f : FieldRef) : String := f.owner ++ "." ++ f.name

/-- Whether class, name and type are all given. -/
def isResolved (f : FieldRef) : Bool := f.owner != "" && f.name != "" && !f.type.isNameless

end FieldRef

/-- A method, named by package, class, name and descriptor. -/
structure MethodRef where
  /-- The package, empty if there is none. -/
  package : String
  /-- The declaring class, empty for a function. -/
  owner : String
  /-- The name of the method. -/
  name : String
  /-- The types of the parameters and of the result. -/
  descriptor : String
deriving DecidableEq, Inhabited

namespace MethodRef

/-- A part of a qualified name with the dot that follows it; nothing for an empty part. -/
def qualifier (part : String) : String := if part = "" then "" else part ++ "."

/-- The qualified name and the descriptor; an empty package or class leaves no dot. -/
def text (m : MethodRef) : String :=
  qualifier m.package ++ qualifier m.owner ++ m.name ++ m.descriptor

end MethodRef

/-- An abstract object: all the objects of a type that are allocated at one site, or all the
    objects of a type where the site is empty. -/
structure Instance where
  /-- The type of the objects. -/
  type : TypeRef
  /-- The place of their allocation, empty for all places. -/
  site : String
deriving DecidableEq, Inhabited

namespace Instance

/-- The object that stands for all objects of a type. -/
def ofType (t : TypeRef) : Instance := ⟨t, ""⟩

/-- Whether the object stands for all objects of its type. -/
def isTypeKey (o : Instance) : Bool := o.site == ""

/-- The type between brackets, with the site if there is one. -/
def text (o : Instance) : String :=
  if o.isTypeKey then "[" ++ o.type.name ++ "]"
  else "[" ++ o.type.name ++ "@" ++ o.site ++ "]"

end Instance

end TaintSeed
