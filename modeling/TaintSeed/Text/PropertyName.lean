/-!
# Names of Character Properties

The categories and scripts of characters have names of several words, such as
`Uppercase_Letter` and `Old_Italic`. Who writes such a name need not remember
how the words are joined or which letters are capitals: two names mean the
same property when they agree up to case, blanks, hyphens and underscores.

## Main definitions

* `PropertyName.key`: What is left of a name when it is compared.
-/

namespace TaintSeed.Text.PropertyName

/-- Whether the character only joins words. -/
def isJoint (c : Char) : Bool := c == ' ' || c == '-' || c == '_'

/-- The letters of a name by which it is compared. -/
def key (name : String) : List Char :=
  (name.toList.filter (fun c => !isJoint c)).map Char.toLower

/-- The first entry of a table whose name means the same as the given one. -/
def find? {α : Type} (table : List (String × α)) (name : String) : Option α :=
  (table.find? (fun e => key e.1 == key name)).map Prod.snd

end TaintSeed.Text.PropertyName
