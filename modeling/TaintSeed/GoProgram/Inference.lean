import TaintSeed.GoProgram.Declaration

/-!
# Type Arguments from Calls

A generic function can be called without its type argument. The argument is then
read off the types of what is passed: wherever the type of a parameter has the
type parameter, the type of what is passed has the argument.

A declared type matches a type that is built from others through what it stands
for. The type parameter itself matches the declared type, and if it is met with
several types, a declared one wins over what it stands for.

## Main definitions

* `GoType.arguments`: What the type parameters of a type stand for.
* `Members.argument?`: The type argument of a call.
-/

namespace TaintSeed.GoProgram

mutual

/-- What the type parameters of a type stand for if another type is to match it, in the order in
    which they are written. -/
def GoType.arguments (d : Declarations) : GoType → GoType → List GoType
  | .basic _, _ => []
  | .named _ _, _ => []
  | .typeParam _ _, t => [t]
  | .pointer elem, t =>
    match d.underlying t with
    | .pointer other => elem.arguments d other
    | _ => []
  | .slice elem, t =>
    match d.underlying t with
    | .slice other => elem.arguments d other
    | _ => []
  | .array _ elem, t =>
    match d.underlying t with
    | .array _ other => elem.arguments d other
    | _ => []
  | .map key value, t =>
    match d.underlying t with
    | .map otherKey other => key.arguments d otherKey ++ value.arguments d other
    | _ => []
  | .chan elem, t =>
    match d.underlying t with
    | .chan other => elem.arguments d other
    | _ => []
  | .func params results, t =>
    match d.underlying t with
    | .func otherParams others =>
      params.argumentsInOrder d otherParams.types ++ results.argumentsInOrder d others.types
    | _ => []
  | .struct _ fields, t =>
    match d.underlying t with
    | .struct _ others => fields.argumentsInOrder d others.types
    | _ => []
  | .interface _ methods, t =>
    match d.underlying t with
    | .interface _ others => methods.argumentsByName d others.toList
    | _ => []

/-- What type parameters stand for if types are to match the members one by one. -/
def Members.argumentsInOrder (d : Declarations) : Members → List GoType → List GoType
  | .cons _ type rest, t :: ts => type.arguments d t ++ rest.argumentsInOrder d ts
  | _, _ => []

/-- What type parameters stand for if named types are to match the members of these names. -/
def Members.argumentsByName (d : Declarations) : Members → List (String × GoType) → List GoType
  | .nil, _ => []
  | .cons name type rest, others =>
    (match others.find? (·.1 == name) with
      | some other => type.arguments d other.2
      | none => []) ++ rest.argumentsByName d others

end

/-- Whether a type is a declared one. -/
def GoType.isNamed : GoType → Bool
  | .named _ _ => true
  | _ => false

/-- The type argument of a call, from what is passed for the parameters. -/
def Members.argument? (d : Declarations) (params passed : Members) : Option GoType :=
  let met := params.argumentsInOrder d passed.types
  (met.find? GoType.isNamed).or met.head?

end TaintSeed.GoProgram
