import TaintSeed.Text.Quoted

/-!
# Log Lines

The analysis tells what it does, and each time that it has something to tell a
policy decides whether that is printed: by a level, and by whether warnings are
silenced. A log is the list of entries that were printed. The policy is asked
beforehand only where it saves work, so that no traces are put together that
nobody prints.

Whatever is told goes through two gates. The policy compares the severity with
its level and holds back silenced warnings. Behind it stands the printer, which
knows the five ranks and no other levels: a level above or below them is taken
for the nearest one.

A line shows the severity and the message. A message of harmless characters is
shown bare, any other between quotes, so an entry is always one line.

## Main definitions

* `Log.Severity`: From error, which is printed first, to trace.
* `Log.Entry`: A message with its severity.
* `Log.Policy`: What is printed.
* `Log.Policy.error`, `Log.Policy.warning`, `Log.Policy.info`, `Log.Policy.debug`,
  `Log.Policy.trace`: What is printed when something is told.
* `Log.Entry.line`: How an entry is printed.
* `Logged`: A value with what was printed on the way to it.
-/

namespace TaintSeed

namespace Log

/-- How much an entry matters. -/
inductive Severity where
  /-- The run cannot go on. -/
  | error
  /-- The result may be incomplete. -/
  | warning
  /-- What was done. -/
  | info
  /-- How it was done. -/
  | debug
  /-- Every single step. -/
  | trace
deriving DecidableEq, Inhabited

namespace Severity

/-- The lowest level at which entries of this severity are printed. -/
def rank : Severity → Int
  | .error => 1
  | .warning => 2
  | .info => 3
  | .debug => 4
  | .trace => 5

/-- The word for a severity. -/
def text : Severity → String
  | .error => "error"
  | .warning => "warning"
  | .info => "info"
  | .debug => "debug"
  | .trace => "trace"

end Severity

/-- A message with its severity. -/
structure Entry where
  /-- How much the message matters. -/
  severity : Severity
  /-- What is said. -/
  message : String
deriving DecidableEq, Inhabited

/-- Whether a character needs no quotes around a message. -/
def isBare (c : Char) : Bool :=
  c.isAlphanum || c == '-' || c == '.' || c == '_' || c == '/' || c == '@' || c == '^' || c == '+'

/-- A message as it is printed: bare if all its characters allow it, else between quotes. -/
def shown (message : String) : String :=
  if message.toList.all isBare then message else Text.Quoted.quote message

/-- The line of an entry. An empty message is left out. -/
def Entry.line (e : Entry) : String :=
  "level=" ++ e.severity.text ++ if e.message = "" then "" else " msg=" ++ shown e.message

/-- What is printed. -/
structure Policy where
  /-- Entries of a higher rank are not printed. -/
  level : Int
  /-- Whether warnings are not printed at any level. -/
  silenceWarnings : Bool
deriving DecidableEq

namespace Policy

instance : Inhabited Policy := ⟨⟨3, false⟩⟩

/-- Whether the level is high enough for a severity. -/
def reaches (p : Policy) (s : Severity) : Bool := decide (s.rank ≤ p.level)

/-- The highest rank that the printer takes. -/
def printerRank (p : Policy) : Int :=
  if Severity.trace.rank < p.level then Severity.trace.rank
  else if p.level < Severity.error.rank then Severity.error.rank
  else p.level

/-- What the printer prints of an entry. -/
def print (p : Policy) (e : Entry) : List Entry :=
  if e.severity.rank ≤ p.printerRank then [e] else []

/-- What is printed of a message, if nothing but the level matters. -/
def say (p : Policy) (s : Severity) (message : String) : List Entry :=
  if p.reaches s then p.print ⟨s, message⟩ else []

/-- Tells about an error. -/
def error (p : Policy) (message : String) : List Entry := p.say .error message

/-- Warns, unless warnings are silenced. -/
def warning (p : Policy) (message : String) : List Entry :=
  if p.reaches .warning && !p.silenceWarnings then p.print ⟨.warning, message⟩ else []

/-- Tells what was done. -/
def info (p : Policy) (message : String) : List Entry := p.say .info message

/-- Tells how something was done. -/
def debug (p : Policy) (message : String) : List Entry := p.say .debug message

/-- Tells about a single step. -/
def trace (p : Policy) (message : String) : List Entry := p.say .trace message

end Policy

end Log

/-- A value with what was printed on the way to it. -/
structure Logged (α : Type) where
  /-- The value. -/
  value : α
  /-- The entries, in the order in which they were printed. -/
  log : List Log.Entry
deriving Inhabited

end TaintSeed
