import TaintSeed.Text.Category

/-!
# Go Types

The types of a Go program. A declared type is only named here, and what it
stands for is looked up, so recursive types are finite values. Parameters,
results, fields and methods are all lists of named types; a parameter without a
name has the empty one.

Two types are identical if they have the same text once the names of parameters
are dropped, aliases are replaced by what they stand for, names that only their
own package can use are marked with it, and type parameters are marked with
their function. Structures and interfaces know their package for that reason.

## Main definitions

* `GoType`: A type.
* `Members`: A list of named types.
* `GoType.text`: How a type is written.
* `GoType.signature`: How a function type is written behind the name of a function.
* `GoType.instantiate`: Replaces type parameters.
* `GoType.isOpen`: Whether a type depends on type parameters.
* `GoType.identical`: Whether two types are the same.
-/

namespace TaintSeed.GoProgram

mutual

/-- A type. -/
inductive GoType where
  /-- A type that is built in. -/
  | basic (name : String)
  /-- A declared type, with the path of its package. -/
  | named (package name : String)
  /-- A type parameter, with the title of its function. -/
  | typeParam (function name : String)
  /-- A pointer. -/
  | pointer (elem : GoType)
  /-- A slice. -/
  | slice (elem : GoType)
  /-- An array of a fixed length. -/
  | array (length : Int) (elem : GoType)
  /-- A map. -/
  | map (key value : GoType)
  /-- A channel. -/
  | chan (elem : GoType)
  /-- A function. -/
  | func (params results : Members)
  /-- A structure with fields, written in a package. -/
  | struct (package : String) (fields : Members)
  /-- An interface with methods, which are functions, written in a package. -/
  | interface (package : String) (methods : Members)

/-- A list of named types. -/
inductive Members where
  /-- No member. -/
  | nil
  /-- A member before others. -/
  | cons (name : String) (type : GoType) (rest : Members)

end

instance : Inhabited GoType := ⟨.basic "int"⟩

instance : Inhabited Members := ⟨.nil⟩

namespace Members

/-- The members as a list. -/
def toList : Members → List (String × GoType)
  | .nil => []
  | .cons name type rest => (name, type) :: rest.toList

/-- The members of a list. -/
def ofList : List (String × GoType) → Members
  | [] => .nil
  | (name, type) :: rest => .cons name type (ofList rest)

/-- Types without names. -/
def unnamed (types : List GoType) : Members := ofList (types.map (fun t => ("", t)))

/-- Types with the names `p0`, `p1` and so on. -/
def numbered (types : List GoType) : Members :=
  ofList (types.zipIdx.map (fun p => ("p" ++ toString p.2, p.1)))

/-- The types of the members. -/
def types (ms : Members) : List GoType := ms.toList.map (·.2)

end Members

/-- Whether other packages can use a name: it begins with a capital letter. -/
def isExported (name : String) : Bool :=
  match name.toList with
  | c :: _ => Text.Category.of c.toNat == "Lu"
  | [] => false

/-- A member as it is written, from its name and the text of its type. -/
def memberText (m : String × String) : String := if m.1 = "" then m.2 else m.1 ++ " " ++ m.2

/-- Members between parentheses. -/
def parenthesized (ms : List (String × String)) : String :=
  "(" ++ ", ".intercalate (ms.map memberText) ++ ")"

/-- Results as they are written: one without a name needs no parentheses. -/
def resultsText : List (String × String) → String
  | [] => ""
  | [m] => if m.1 = "" then " " ++ m.2 else " " ++ parenthesized [m]
  | ms => " " ++ parenthesized ms

/-- The text of a function type without the word for it. -/
def withoutFunc (text : String) : String :=
  if "func".toList.isPrefixOf text.toList then String.ofList (text.toList.drop 4) else text

/-- Parts between braces behind a word. -/
def braced (word : String) (parts : List String) : String :=
  word ++ "\x7b" ++ "; ".intercalate parts ++ "\x7d"

/-- Methods as they are written, by name. -/
def methodTexts (ms : List (String × String)) : List String :=
  (ms.mergeSort (fun m n => decide (m.1 ≤ n.1))).map (fun m => m.1 ++ withoutFunc m.2)

mutual

/-- How a type is written. -/
def GoType.text : GoType → String
  | .basic name => name
  | .named package name => if package = "" then name else package ++ "." ++ name
  | .typeParam _ name => name
  | .pointer elem => "*" ++ elem.text
  | .slice elem => "[]" ++ elem.text
  | .array length elem => "[" ++ toString length ++ "]" ++ elem.text
  | .map key value => "map[" ++ key.text ++ "]" ++ value.text
  | .chan elem => "chan " ++ elem.text
  | .func params results => "func" ++ parenthesized params.texts ++ resultsText results.texts
  | .struct _ fields => braced "struct" (fields.texts.map memberText)
  | .interface _ methods => braced "interface" (methodTexts methods.texts)

/-- The names of members with the texts of their types. -/
def Members.texts : Members → List (String × String)
  | .nil => []
  | .cons name type rest => (name, type.text) :: rest.texts

end

mutual

/-- Replaces type parameters. -/
def GoType.instantiate (arguments : String → String → GoType) : GoType → GoType
  | .basic name => .basic name
  | .named package name => .named package name
  | .typeParam function name => arguments function name
  | .pointer elem => .pointer (elem.instantiate arguments)
  | .slice elem => .slice (elem.instantiate arguments)
  | .array length elem => .array length (elem.instantiate arguments)
  | .map key value => .map (key.instantiate arguments) (value.instantiate arguments)
  | .chan elem => .chan (elem.instantiate arguments)
  | .func params results =>
    .func (params.instantiate arguments) (results.instantiate arguments)
  | .struct package fields => .struct package (fields.instantiate arguments)
  | .interface package methods => .interface package (methods.instantiate arguments)

/-- Replaces type parameters in all members. -/
def Members.instantiate (arguments : String → String → GoType) : Members → Members
  | .nil => .nil
  | .cons name type rest =>
    .cons name (type.instantiate arguments) (rest.instantiate arguments)

end

mutual

/-- Whether a type mentions a built-in type. -/
def GoType.mentions (name : String) : GoType → Bool
  | .basic other => other == name
  | .named _ _ => false
  | .typeParam _ _ => false
  | .pointer elem => elem.mentions name
  | .slice elem => elem.mentions name
  | .array _ elem => elem.mentions name
  | .map key value => key.mentions name || value.mentions name
  | .chan elem => elem.mentions name
  | .func params results => params.mentions name || results.mentions name
  | .struct _ fields => fields.mentions name
  | .interface _ methods => methods.mentions name

/-- Whether one of the members mentions a built-in type. -/
def Members.mentions (name : String) : Members → Bool
  | .nil => false
  | .cons _ type rest => type.mentions name || rest.mentions name

end

mutual

/-- Whether a type depends on type parameters. -/
def GoType.isOpen : GoType → Bool
  | .basic _ => false
  | .named _ _ => false
  | .typeParam _ _ => true
  | .pointer elem => elem.isOpen
  | .slice elem => elem.isOpen
  | .array _ elem => elem.isOpen
  | .map key value => key.isOpen || value.isOpen
  | .chan elem => elem.isOpen
  | .func params results => params.isOpen || results.isOpen
  | .struct _ fields => fields.isOpen
  | .interface _ methods => methods.isOpen

/-- Whether one of the members depends on type parameters. -/
def Members.isOpen : Members → Bool
  | .nil => false
  | .cons _ type rest => type.isOpen || rest.isOpen

end

mutual

/-- The number of types that a type is made of. -/
def GoType.size : GoType → Nat
  | .basic _ => 1
  | .named _ _ => 1
  | .typeParam _ _ => 1
  | .pointer elem => elem.size + 1
  | .slice elem => elem.size + 1
  | .array _ elem => elem.size + 1
  | .map key value => key.size + value.size + 1
  | .chan elem => elem.size + 1
  | .func params results => params.size + results.size + 1
  | .struct _ fields => fields.size + 1
  | .interface _ methods => methods.size + 1

/-- The number of types that members are made of. -/
def Members.size : Members → Nat
  | .nil => 0
  | .cons _ type rest => type.size + rest.size

end

/-- A name, marked with its package if only that can use it. -/
def markedName (package name : String) : String :=
  if isExported name then name else package ++ "." ++ name

/-- Built-in types that are other names for built-in types. -/
def aliasOf (name : String) : String :=
  if name = "byte" then "uint8" else if name = "rune" then "int32" else name

mutual

/-- A type as it is compared with others. No declared type ends in a bracket, so none is taken
    for a type parameter. -/
def GoType.compared : GoType → GoType
  | .basic name => .basic (aliasOf name)
  | .named other name =>
    if other = "" && name = "any" then .interface "" .nil else .named other name
  | .typeParam function name => .typeParam function (function ++ "[" ++ name ++ "]")
  | .pointer elem => .pointer elem.compared
  | .slice elem => .slice elem.compared
  | .array length elem => .array length elem.compared
  | .map key value => .map key.compared value.compared
  | .chan elem => .chan elem.compared
  | .func params results => .func params.comparedTypes results.comparedTypes
  | .struct package fields => .struct package (fields.comparedMembers package)
  | .interface package methods => .interface package (methods.comparedMembers package)

/-- Members whose names do not matter, as they are compared with others. -/
def Members.comparedTypes : Members → Members
  | .nil => .nil
  | .cons _ type rest => .cons "" type.compared rest.comparedTypes

/-- Members of a package whose names matter, as they are compared with others. -/
def Members.comparedMembers (package : String) : Members → Members
  | .nil => .nil
  | .cons name type rest =>
    .cons (markedName package name) type.compared (rest.comparedMembers package)

end

namespace GoType

/-- What a pointer points to, and any other type itself. -/
def pointee : GoType → GoType
  | pointer elem => elem
  | t => t

/-- Whether two types are the same. -/
def identical (t u : GoType) : Bool := t.compared.text == u.compared.text

/-- Parameters and results as they are written behind the name of a function. -/
def signature (params results : Members) : String := withoutFunc (func params results).text

end GoType

end TaintSeed.GoProgram
