import TaintSeed.Reference
import TaintSeed.Regex.Program
import TaintSeed.Text.Quoted

/-!
# Method Patterns

A pattern names methods by four texts, one for each part of a method's name. An
empty text matches everything. The others are regular expressions once the
pattern has been compiled, which succeeds for all four or for none: if one text
is no regular expression, the pattern stays a list of plain texts, each of which
must be equal to its part of the name.

## Main definitions

* `Pattern`: Four texts, with their programs if they are compiled.
* `Pattern.compile`: Compiles a pattern, if all its texts are regular expressions.
* `Pattern.matches`: Whether a pattern names a method.
-/

namespace TaintSeed

/-- The programs of the four texts of a pattern. -/
structure Pattern.Compiled where
  /-- For the package. -/
  package : Regex.Program
  /-- For the class. -/
  type : Regex.Program
  /-- For the name. -/
  method : Regex.Program
  /-- For the descriptor. -/
  signature : Regex.Program
deriving Inhabited

/-- A name for methods. -/
structure Pattern where
  /-- What the package must be. -/
  package : String
  /-- What the class must be. -/
  type : String
  /-- What the name must be. -/
  method : String
  /-- What the descriptor must be. -/
  signature : String
  /-- The texts as regular expressions, if the pattern is compiled. -/
  compiled? : Option Pattern.Compiled
deriving Inhabited

namespace Pattern

/-- The pattern of four texts, not compiled. -/
def plain (package type method signature : String) : Pattern :=
  ⟨package, type, method, signature, none⟩

/-- The pattern whose texts are the parts of a method's name. -/
def ofMethod (m : MethodRef) : Pattern := plain m.package m.owner m.name m.descriptor

/-- The text of a pattern. -/
def text (p : Pattern) : String :=
  "\x7bpackage: " ++ Text.Quoted.quote p.package ++ ", type: " ++ Text.Quoted.quote p.type ++
    ", method: " ++ Text.Quoted.quote p.method ++ ", signature: " ++
    Text.Quoted.quote p.signature ++ "\x7d"

/-- The programs of the four texts, if each of them is a regular expression. -/
def programs? (p : Pattern) : Option Compiled :=
  match Regex.compile? p.package, Regex.compile? p.type, Regex.compile? p.method,
    Regex.compile? p.signature with
  | some package, some type, some method, some signature => some ⟨package, type, method, signature⟩
  | _, _, _, _ => none

/-- Compiles the pattern; it stays as it is if one of its texts is no regular expression. -/
def compile (p : Pattern) : Pattern :=
  match p.programs? with
  | some c => { p with compiled? := some c }
  | none => p

/-- Whether a part of a name is what a text of a compiled pattern asks for. -/
def accepts (text : String) (program : Regex.Program) (part : String) : Bool :=
  text == "" || program.matches part

/-- Whether a part of a name is what a plain text asks for. -/
def isPart (text part : String) : Bool := text == "" || part == text

/-- Whether the pattern names the method. -/
def «matches» (p : Pattern) (m : MethodRef) : Bool :=
  match p.compiled? with
  | some c =>
    accepts p.package c.package m.package && accepts p.type c.type m.owner &&
      accepts p.method c.method m.name && accepts p.signature c.signature m.descriptor
  | none =>
    isPart p.package m.package && isPart p.type m.owner && isPart p.method m.name &&
      isPart p.signature m.descriptor

end Pattern

end TaintSeed
