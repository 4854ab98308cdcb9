import TaintSeed.TypeRef.Descriptor

/-!
# Types in Source Notation

Program models may write a type as a descriptor or as a programmer does:
`int`, `char[]`, `android.os.Bundle`. Both notations are read into the same
reference, whose name is the descriptor, so the two spellings of a type are
equal. Text that is a type in neither notation keeps its own name and has
unknown kind.

## Main definitions

* `TypeRef.descriptorOf?`: The descriptor of a type in source notation.
* `TypeRef.parse`: Reads a type in either notation.
-/

namespace TaintSeed.TypeRef

/-- Counts the pairs of brackets at the front of a reversed text, and gives the rest. -/
def stripBrackets : List Char → Nat × List Char
  | ']' :: '[' :: rest =>
    let (n, base) := stripBrackets rest
    (n + 1, base)
  | base => (0, base)

/-- Whether a character cannot be in a class name. -/
def isForeign (c : Char) : Bool := c == '[' || c == ']' || c == ';' || c == ' '

/-- The descriptor of a base in source notation. A leading question mark, which stands for an
    unresolved type, makes the name no class name. -/
def baseDescriptor? (base : List Char) : Option (List Char) :=
  match Descriptor.primitiveLetter? (String.ofList base) with
  | some letter => some [letter]
  | none =>
    if base.head? == some '?' then none
    else some ('L' :: base.map (fun c => if c == '.' then '/' else c) ++ [';'])

/-- The descriptor of a type in source notation, if the text is one. -/
def descriptorOf? (s : String) : Option String :=
  let (dims, reversed) := stripBrackets s.toList.reverse
  let base := reversed.reverse
  if base.isEmpty || base.any isForeign then none
  else (baseDescriptor? base).map (fun d => String.ofList (List.replicate dims '[' ++ d))

/-- Reads a type in either notation. -/
def parse (s : String) : TypeRef :=
  if (ofDescriptor s).kind ≠ .unknown then ofDescriptor s
  else
    match descriptorOf? s with
    | some d => ofDescriptor d
    | none => ⟨s, .unknown⟩

end TaintSeed.TypeRef
