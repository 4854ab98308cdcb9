import TaintSeed.Command.Builder
import TaintSeed.Command.Flags

/-!
# Options of Commands

What all commands can be told: which configuration to use, where the program
comes from, and how much to report.

## Main definitions

* `Options`: What a command is told.
* `Options.flags`: The flags for it.
* `Options.builder`: Where the program comes from.
* `Options.config`: The configuration.
-/

namespace TaintSeed.Command

/-- What a command is told. -/
structure Options where
  /-- The file of the configuration; empty if there is none. -/
  configPath : String
  /-- The file of the model; empty if there is none. -/
  modelPath : String
  /-- Whether the program is given by Go packages. -/
  usesPackages : Bool
  /-- How the calls of a Go program are followed. -/
  mode : String
  /-- Whether more is reported than usually. -/
  isVerbose : Bool
  /-- Whether tests belong to the packages. -/
  withTests : Bool
  /-- What stands behind the flags. -/
  arguments : List String
deriving DecidableEq, Inhabited

namespace Options

/-- What the flag for build tags is for. -/
def buildTagsPurpose : String :=
  "a list of \x60build tags\x60 to consider satisfied during the build. " ++
    "For more information about build tags, see the description of build constraints " ++
    "in the documentation for the go/build package"

/-- The flags of all commands. -/
def flags : List Flag :=
  [Flags.text "config" "" "config file path for analysis",
   Flags.text "model" "" "program model file path (relative to the config file if not found)",
   Flags.switch "go" "build the call graph of the Go packages given as arguments",
   Flags.text "mode" "static" "call graph algorithm for Go packages: static or cha",
   Flags.switch "verbose" "verbose printing on standard output",
   Flags.switch "with-test" "load tests during analysis",
   ⟨"build-tags", buildTagsPurpose, .words [], "<tagsFlag>"⟩]

/-- What the flags and the arguments behind them tell. -/
def ofFlags (fs : List Flag) (arguments : List String) : Options where
  configPath := Flags.textOf fs "config"
  modelPath := Flags.textOf fs "model"
  usesPackages := Flags.isOn fs "go"
  mode := Flags.textOf fs "mode"
  isVerbose := Flags.isOn fs "verbose"
  withTests := Flags.isOn fs "with-test"
  arguments := arguments

/-- What arguments tell a command that has no other flags. -/
def parse (arguments : List String) : Except Flags.Stop Options :=
  (Flags.parse flags arguments).map (fun r => ofFlags r.1 r.2)

/-- Why there is no builder. -/
inductive NoBuilder where
  /-- There is a model, and there are packages. -/
  | both
  /-- There are no packages. -/
  | noPackages
  /-- The mode is not known. -/
  | mode (e : GoProgram.Mode.Unsupported)
  /-- There is no model, and there are no packages. -/
  | neither
deriving DecidableEq

/-- The wording of the failure. -/
def NoBuilder.message : NoBuilder → String
  | .both => "-go and -model cannot be used together"
  | .noPackages => "no Go packages to analyze"
  | .mode e => e.message
  | .neither => "one of -model or -go must be provided"

/-- Where the program comes from. -/
def builder (o : Options) : Except NoBuilder Builder :=
  if o.usesPackages then
    if o.modelPath ≠ "" then .error .both
    else if o.arguments.isEmpty then .error .noPackages
    else
      match GoProgram.Mode.ofName o.mode with
      | .error e => .error (.mode e)
      | .ok mode => .ok (.packages o.arguments mode o.withTests)
  else if o.modelPath ≠ "" then .ok (.model o.modelPath)
  else .error .neither

/-- Why there is no configuration. -/
inductive NoConfig where
  /-- The file cannot be read. -/
  | noFile (path : String) (e : ReadFailure)
  /-- The file holds no configuration. -/
  | invalid (path : String) (e : Config.Failure)

/-- The wording of the failure. -/
def NoConfig.message : NoConfig → String
  | .noFile path e =>
    "failed to load config file " ++ path ++ ": could not read config file: " ++ e.message
  | .invalid path e => "failed to load config file " ++ path ++ ": " ++ e.message

/-- The configuration as the options change it. -/
def override (o : Options) (c : Config) : Config :=
  if o.isVerbose then { c with options := { c.options with logLevel := Config.debugLevel } } else c

/-- The configuration of the file, or the usual one if there is no file. -/
def load {m : Type → Type} [Monad m] (host : Host m) (path : String) :
    m (Except NoConfig Config) := do
  if path = "" then pure (.ok .usual)
  else
    match ← host.read path with
    | .error e => pure (.error (.noFile path e))
    | .ok text =>
      match Config.parse path text with
      | .error e => pure (.error (.invalid path e))
      | .ok c => pure (.ok c)

/-- The configuration. -/
def config {m : Type → Type} [Monad m] (host : Host m) (o : Options) :
    m (Except NoConfig Config) := do
  match ← load host o.configPath with
  | .error e => pure (.error e)
  | .ok c => pure (.ok (o.override c))

end Options

end TaintSeed.Command
