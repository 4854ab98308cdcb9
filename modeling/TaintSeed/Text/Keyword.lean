/-!
# Keywords in Any Case

Kinds of sources, class loaders and call graph algorithms are named by words
that may be written in upper or lower case. A word is compared after its
characters have been put into lower case. The keywords have ASCII letters
only, so of the other characters only two matter: the dotted capital I, whose
lower case is `i`, and the Kelvin sign, whose lower case is `k`.

## Main definitions

* `Keyword.lower`: A word with every character that has an ASCII lower case put into it.
-/

namespace TaintSeed.Text.Keyword

/-- The lower case of a character, where that is an ASCII letter; else the character. -/
def lowerChar (c : Char) : Char :=
  if c.toNat = 0x130 then 'i'
  else if c.toNat = 0x212A then 'k'
  else c.toLower

/-- The word in lower case, as far as keywords can tell. -/
def lower (word : String) : String := String.ofList (word.toList.map lowerChar)

end TaintSeed.Text.Keyword
