/-!
# Tokens

The signs and scalars that a text is made of, with marks for what the
indentation says: where a block of entries begins and where it ends.

## Main definitions

* `Yaml.TokenKind`: The kinds of tokens with their contents.
* `Yaml.Token`: A token with the lines where it begins and ends.
-/

namespace TaintSeed.Yaml

/-- What a token is. -/
inductive TokenKind where
  /-- The end of the text. -/
  | streamEnd
  /-- The version of the format. -/
  | version (major minor : Nat)
  /-- An abbreviation for tags. -/
  | tagHandle (handle expansion : String)
  /-- The beginning of a document. -/
  | documentStart
  /-- The end of a document. -/
  | documentEnd
  /-- The beginning of an indented list. -/
  | blockSequenceStart
  /-- The beginning of an indented mapping. -/
  | blockMappingStart
  /-- The end of an indented list or mapping. -/
  | blockEnd
  /-- An opening bracket. -/
  | flowSequenceStart
  /-- A closing bracket. -/
  | flowSequenceEnd
  /-- An opening brace. -/
  | flowMappingStart
  /-- A closing brace. -/
  | flowMappingEnd
  /-- The dash before an entry of a list. -/
  | blockEntry
  /-- The comma between entries. -/
  | flowEntry
  /-- The beginning of a key. -/
  | key
  /-- The beginning of a value. -/
  | value
  /-- A reference to a named node. -/
  | alias (name : String)
  /-- A name for the node that follows. -/
  | anchor (name : String)
  /-- A tag for the node that follows. -/
  | tag (handle suffix : String)
  /-- A scalar, plain or written in another way. -/
  | scalar (text : String) (isPlain : Bool)
deriving DecidableEq, Inhabited

/-- A token in its place. -/
structure Token where
  /-- What it is. -/
  kind : TokenKind
  /-- The line where it begins, counted from zero. -/
  line : Nat
  /-- The line where it ends. -/
  endLine : Nat
deriving DecidableEq, Inhabited

end TaintSeed.Yaml
