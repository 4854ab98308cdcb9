import TaintSeed.Text.Integer
import TaintSeed.Text.Quoted

/-!
# Command Line Flags

The flags of a command, and how they are read from its arguments. A flag is
written with one or two dashes, its value behind an equals sign or as the next
argument; a flag that is on or off needs no value. The first argument that is
no flag ends the flags, and so do two dashes alone. A flag may be given several
times, and the last one counts.

## Main definitions

* `Flags.Value`: The values that flags can have.
* `Flag`: A flag with its value.
* `Flags.parse`: Reads flags from arguments.
* `Flags.Stop`: Why the command is not run.
* `Flags.usage`: The description of a command and its flags.
-/

namespace TaintSeed.Command

/-- The value of a flag. -/
inductive Flags.Value where
  /-- A text. -/
  | text (s : String)
  /-- On or off. -/
  | switch (b : Bool)
  /-- A number. -/
  | number (n : Int)
  /-- A list of words. -/
  | words (ws : List String)
deriving DecidableEq, Inhabited

/-- A flag of a command. -/
structure Flag where
  /-- The name, without dashes. -/
  name : String
  /-- What the flag is for. -/
  purpose : String
  /-- The value. -/
  value : Flags.Value
  /-- The text of the value that it has if the flag is not given. -/
  usual : String
deriving DecidableEq, Inhabited

namespace Flags

/-- A flag for a text. -/
def text (name usual purpose : String) : Flag := ⟨name, purpose, .text usual, usual⟩

/-- A flag that is off unless it is given. -/
def switch (name purpose : String) : Flag := ⟨name, purpose, .switch false, "false"⟩

/-- A flag for a number, usually zero. -/
def number (name purpose : String) : Flag := ⟨name, purpose, .number 0, "0"⟩

/-- Why the command is not run. -/
inductive Stop where
  /-- The user asks for help. -/
  | help
  /-- An argument has not the form of a flag. -/
  | malformed (argument : String)
  /-- The command has no such flag. -/
  | unknown (name : String)
  /-- The flag has no value. -/
  | noValue (name : String)
  /-- The value of a switch is neither true nor false. -/
  | badSwitch (value name : String)
  /-- The value does not fit. -/
  | badValue (value name reason : String)
deriving DecidableEq

/-- The wording of the problem; a call for help is none. -/
def Stop.message? : Stop → Option String
  | .help => none
  | .malformed argument => some ("bad flag syntax: " ++ argument)
  | .unknown name => some ("flag provided but not defined: -" ++ name)
  | .noValue name => some ("flag needs an argument: -" ++ name)
  | .badSwitch value name =>
    some ("invalid boolean value " ++ Text.Quoted.quote value ++ " for -" ++ name ++
      ": parse error")
  | .badValue value name reason =>
    some ("invalid value " ++ Text.Quoted.quote value ++ " for flag -" ++ name ++ ": " ++ reason)

/-- The words for on and off. -/
def switchWords : List (String × Bool) :=
  ["1", "t", "T", "TRUE", "true", "True"].map (·, true) ++
    ["0", "f", "F", "FALSE", "false", "False"].map (·, false)

/-- Whether a character separates words. -/
def isSeparator (c : Char) : Bool := c == ' ' || c == '\t' || c == '\n' || c == '\r'

/-- Splits a text into words, which may stand between quotes. Fails with the quote that is not
    closed. -/
def splitWords : Nat → List Char → Except Char (List String)
  | 0, _ => .ok []
  | fuel + 1, cs =>
    match cs.dropWhile isSeparator with
    | [] => .ok []
    | c :: rest =>
      if c == '\x22' || c == '\x27' then
        let word := rest.takeWhile (· != c)
        match rest.drop word.length with
        | [] => .error c
        | _ :: rest => (splitWords fuel rest).map (String.ofList word :: ·)
      else
        let word := (c :: rest).takeWhile (fun c => !isSeparator c)
        (splitWords fuel ((c :: rest).drop word.length)).map (String.ofList word :: ·)

/-- The value that a text gives to a flag, or why it gives none. -/
def Value.read (old : Value) (s : String) : Except String Value :=
  match old with
  | .text _ => .ok (.text s)
  | .switch _ =>
    match switchWords.find? (fun w => w.1 == s) with
    | some w => .ok (.switch w.2)
    | none => .error "parse error"
  | .number _ =>
    match Text.Integer.parse s.toList with
    | .ok n => .ok (.number n)
    | .error .malformed => .error "parse error"
    | .error .tooLarge => .error "value out of range"
  | .words _ =>
    match splitWords (s.toList.length + 1) s.toList with
    | .ok ws => .ok (.words ws)
    | .error c => .error ("unterminated " ++ String.singleton c ++ " string")

/-- Gives a value to the flag of a name. -/
def set (flags : List Flag) (name : String) (v : Value) : List Flag :=
  flags.map (fun f => if f.name = name then { f with value := v } else f)

/-- Splits a text at the first equals sign behind its first character. -/
def splitValue (s : String) : String × Option String :=
  match s.toList with
  | [] => ("", none)
  | c :: cs =>
    let name := cs.takeWhile (· != '=')
    match cs.drop name.length with
    | [] => (s, none)
    | _ :: value => (String.ofList (c :: name), some (String.ofList value))

/-- The text of a flag without its dashes; nothing for an argument that is no flag. -/
def dashed? (argument : String) : Option String :=
  match argument.toList with
  | '-' :: '-' :: cs => some (String.ofList cs)
  | '-' :: c :: cs => some (String.ofList (c :: cs))
  | _ => none

/-- Whether the text behind the dashes can be that of a flag. -/
def isFlagText (s : String) : Bool :=
  match s.toList with
  | [] => false
  | c :: _ => c != '-' && c != '='

/-- Gives the flag `f` a text as its value. -/
def assign (flags : List Flag) (f : Flag) (s : String) : Except Stop (List Flag) :=
  match f.value.read s with
  | .ok v => .ok (set flags f.name v)
  | .error reason =>
    match f.value with
    | .switch _ => .error (.badSwitch s f.name)
    | _ => .error (.badValue s f.name reason)

/-- Reads flags from arguments. Gives the flags with their values, and the arguments that are
    left. -/
def parse (flags : List Flag) : List String → Except Stop (List Flag × List String)
  | [] => .ok (flags, [])
  | argument :: rest =>
    match dashed? argument with
    | none => .ok (flags, argument :: rest)
    | some body =>
      if argument = "--" then .ok (flags, rest)
      else if !isFlagText body then .error (.malformed argument)
      else
        let (name, value?) := splitValue body
        match flags.find? (fun f => f.name == name) with
        | none => if name = "help" || name = "h" then .error .help else .error (.unknown name)
        | some f =>
          match value?, f.value with
          | some value, _ =>
            match assign flags f value with
            | .error e => .error e
            | .ok flags => parse flags rest
          | none, .switch _ => parse (set flags name (.switch true)) rest
          | none, _ =>
            match rest with
            | [] => .error (.noValue name)
            | value :: rest =>
              match assign flags f value with
              | .error e => .error e
              | .ok flags => parse flags rest

/-- The line of a flag in the description of a command. -/
def line (f : Flag) : String :=
  "  " ++ f.name ++ ": " ++ f.purpose ++ " (default: " ++ Text.Quoted.quote f.usual ++ ")\n"

/-- The description of a command and its flags, by their names. -/
def usage (description : String) (flags : List Flag) : String :=
  description ++ "\nOptions:\n" ++
    String.join ((flags.mergeSort (fun f g => decide (f.name ≤ g.name))).map line)

/-- The text of a flag's value; empty for other values. -/
def textOf (flags : List Flag) (name : String) : String :=
  match flags.find? (fun f => f.name == name) with
  | some ⟨_, _, .text s, _⟩ => s
  | _ => ""

/-- Whether a switch is on. -/
def isOn (flags : List Flag) (name : String) : Bool :=
  match flags.find? (fun f => f.name == name) with
  | some ⟨_, _, .switch b, _⟩ => b
  | _ => false

/-- The number of a flag's value; zero for other values. -/
def numberOf (flags : List Flag) (name : String) : Int :=
  match flags.find? (fun f => f.name == name) with
  | some ⟨_, _, .number n, _⟩ => n
  | _ => 0

end Flags

end TaintSeed.Command
