import TaintSeed.Config

/-!
# Sources of a Configuration

The sources that a configuration lists. A source whose kind is not given is an
input.

## Main definitions

* `Source.ofEntry`: The source of an entry.
* `Source.ofConfig`: The sources of a configuration, in order.
-/

namespace TaintSeed.Source

/-- An entry whose kind is not known. -/
structure UnknownKind where
  /-- Names the methods. -/
  method : Pattern
  /-- The word for the kind. -/
  cause : SourceKind.Unknown

/-- The wording of the failure. -/
def UnknownKind.message (e : UnknownKind) : String :=
  "source spec " ++ e.method.text ++ ": " ++ e.cause.message

/-- What the failure holds on to. -/
def UnknownKind.chain (e : UnknownKind) : List Sentinel := e.cause.chain

/-- The source of an entry. -/
def ofEntry (e : Config.Entry) : Except UnknownKind Source :=
  match SourceKind.ofName (if e.kind = "" then "input" else e.kind) with
  | .error cause => .error ⟨e.method, cause⟩
  | .ok kind => .ok ⟨e.method.compile, e.args, kind⟩

/-- The sources of entries, up to the first whose kind is not known. -/
def ofEntries : List Config.Entry → Except UnknownKind (List Source)
  | [] => .ok []
  | e :: es =>
    match ofEntry e with
    | .error cause => .error cause
    | .ok s =>
      match ofEntries es with
      | .error cause => .error cause
      | .ok rest => .ok (s :: rest)

/-- The sources of a configuration. -/
def ofConfig (c : Config) : Except UnknownKind (List Source) := ofEntries c.entries

end TaintSeed.Source
