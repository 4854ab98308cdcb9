import TaintSeed.Log
import TaintSeed.Path
import TaintSeed.Source.Basic
import TaintSeed.Yaml.Decode

/-!
# Configurations

What a user can choose: how much is reported, which part of the program is
considered, and through which arguments taint enters. A configuration is read
from a file; what the file does not mention keeps its usual value.

## Main definitions

* `Config.Options`: The choices that are no sources.
* `Config.Entry`: A source as it is written in a file.
* `Config`: A configuration.
* `Config.parse`: Reads a configuration.
* `Config.matchesPackage`: Whether a package belongs to the application.
-/

namespace TaintSeed

/-- The choices that are no sources. -/
structure Config.Options where
  /-- Names the packages of the application. -/
  packageFilter : String
  /-- Whether library code has sources too. -/
  includeLibrary : Bool
  /-- Whether to stop when the call graph is built. -/
  testBuilder : Bool
  /-- Whether the call graph is reported. -/
  showGraph : Bool
  /-- Whether the warnings of the builder are reported. -/
  builderWarnings : Bool
  /-- How much is reported. -/
  logLevel : Int
  /-- Whether warnings are not reported. -/
  silenceWarnings : Bool
deriving DecidableEq

/-- A source as it is written in a file. -/
structure Config.Entry where
  /-- Names the methods. -/
  method : Pattern
  /-- The positions of the arguments. -/
  args : List Int
  /-- The word for the kind, perhaps empty. -/
  kind : String
deriving Inhabited

/-- A configuration. -/
structure Config where
  /-- The choices that are no sources. -/
  options : Config.Options
  /-- The file that it was read from. -/
  sourceFile : String
  /-- The package filter, if it is a regular expression. -/
  packageProgram? : Option Regex.Program
  /-- The sources. -/
  entries : List Config.Entry

namespace Config

/-- The level at which everything is reported that was done. -/
def infoLevel : Int := Log.Severity.info.rank

/-- The level at which it is reported how things were done. -/
def debugLevel : Int := Log.Severity.debug.rank

/-- The choices where nothing is chosen. -/
def Options.usual : Options := ⟨"", false, false, false, false, infoLevel, false⟩

/-- The configuration where nothing is chosen. -/
def usual : Config := ⟨.usual, "", none, []⟩

instance : Inhabited Config := ⟨usual⟩

/-- Which log entries are printed. -/
def policy (c : Config) : Log.Policy := ⟨c.options.logLevel, c.options.silenceWarnings⟩

section Reading

open Yaml.Decoder

/-- Reads the choices. -/
def Options.decoder : Yaml.Decoder Options :=
  record "config.Options" .usual
    [field "pkg-filter" string (·.packageFilter) (fun o v => { o with packageFilter := v }),
     field "include-library" truth (·.includeLibrary) (fun o v => { o with includeLibrary := v }),
     field "test-cg-builder" truth (·.testBuilder) (fun o v => { o with testBuilder := v }),
     field "stdout-cg" truth (·.showGraph) (fun o v => { o with showGraph := v }),
     field "cg-builder-warnings" truth (·.builderWarnings)
       (fun o v => { o with builderWarnings := v }),
     field "log-level" integer (·.logLevel) (fun o v => { o with logLevel := v }),
     field "silence-warn" truth (·.silenceWarnings) (fun o v => { o with silenceWarnings := v })]

/-- Reads a pattern. -/
def patternDecoder : Yaml.Decoder Pattern :=
  record "config.CodeIdentifier" (.plain "" "" "" "")
    [field "package" string (·.package) (fun p v => { p with package := v }),
     field "type" string (·.type) (fun p v => { p with type := v }),
     field "method" string (·.method) (fun p v => { p with method := v }),
     field "signature" string (·.signature) (fun p v => { p with signature := v })]

/-- Reads a source. -/
def Entry.decoder : Yaml.Decoder Entry :=
  record "config.SourceSpec" ⟨.plain "" "" "" "", [], ""⟩
    [field "method" patternDecoder (·.method) (fun e v => { e with method := v }),
     field "args" (list integer) (·.args) (fun e v => { e with args := v }),
     field "kind" string (·.kind) (fun e v => { e with kind := v })]

/-- Reads a configuration. -/
def decoder : Yaml.Decoder Config :=
  record "config.Config" .usual
    [field "options" Options.decoder (·.options) (fun c v => { c with options := v }),
     field "source-specs" (list Entry.decoder) (·.entries) (fun c v => { c with entries := v })]

end Reading

/-- Why a text is no configuration. -/
inductive Failure where
  /-- The text cannot be read. -/
  | unreadable (file : String) (e : Yaml.Failure)
  /-- A source names no argument. -/
  | noArguments (position : Nat) (method : Pattern)

/-- The wording of the failure. -/
def Failure.message : Failure → String
  | .unreadable file e => "could not unmarshal config file " ++ file ++ ": " ++ e.message
  | .noArguments position method =>
    "source spec " ++ toString position ++ " (" ++ method.text ++
      ") does not specify any argument"

/-- The first source without arguments, with its position. -/
def firstWithoutArgs? : Nat → List Entry → Option (Nat × Entry)
  | _, [] => none
  | i, e :: es => if e.args.isEmpty then some (i, e) else firstWithoutArgs? (i + 1) es

/-- Completes a configuration that has been read from a file: a level of zero counts as not
    given, and regular expressions are compiled. -/
def complete (file : String) (c : Config) : Config :=
  { options :=
      if c.options.logLevel = 0 then { c.options with logLevel := infoLevel } else c.options
    sourceFile := file
    packageProgram? :=
      if c.options.packageFilter = "" then none else Regex.compile? c.options.packageFilter
    entries := c.entries.map (fun e => { e with method := e.method.compile }) }

/-- Checks and completes a configuration that has been read from a file. -/
def checked (file : String) (c : Config) : Except Failure Config :=
  match firstWithoutArgs? 0 c.entries with
  | some (i, e) => .error (.noArguments i e.method)
  | none => .ok (complete file c)

/-- Reads a configuration from the text of a file, in whatever way texts are decoded. -/
def parseBy (decode : String → Except Yaml.Failure Config) (file text : String) :
    Except Failure Config :=
  match decode text with
  | .error e => .error (.unreadable file e)
  | .ok c => checked file c

/-- Reads a configuration from the text of a file. -/
def parse (file text : String) : Except Failure Config := parseBy (Yaml.decode decoder) file text

/-- A path relative to the file that the configuration was read from. -/
def relativePath (c : Config) (path : String) : String :=
  Path.join (Path.directory c.sourceFile) path

/-- Whether a package belongs to the application: it matches the filter, or begins with it if
    the filter is no regular expression. Without a filter all packages do. -/
def matchesPackage (c : Config) (package : String) : Bool :=
  match c.packageProgram? with
  | some program => program.matches package
  | none =>
    (Text.Bytes.ofText c.options.packageFilter).isPrefixOf (Text.Bytes.ofText package)

/-- Whether a source names the method. -/
def isSource (c : Config) (m : MethodRef) : Bool := c.entries.any (fun e => e.method.matches m)

/-- Whether more is reported than what was done. -/
def isVerbose (c : Config) : Bool := decide (debugLevel ≤ c.options.logLevel)

end Config

end TaintSeed
