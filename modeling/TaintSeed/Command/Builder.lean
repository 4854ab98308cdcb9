import TaintSeed.Command.Host
import TaintSeed.Config
import TaintSeed.GoProgram.Mode
import TaintSeed.Model.Program

/-!
# Builders

Where a command takes its program from: the file of a model, or Go packages.
A model whose path leads nowhere is looked for beside the configuration.

## Main definitions

* `Builder`: Where a program comes from.
* `Builder.text`: How a builder is shown.
* `Builder.build`: The program that a builder gives.
-/

namespace TaintSeed.Command

/-- Where a program comes from. -/
inductive Builder where
  /-- From the file of a model. -/
  | model (path : String)
  /-- From Go packages. -/
  | packages (patterns : List String) (mode : GoProgram.Mode) (withTests : Bool)
deriving DecidableEq

namespace Builder

/-- How a builder is shown. -/
def text : Builder → String
  | .model path => "\x7bPath:" ++ path ++ "\x7d"
  | .packages patterns mode withTests =>
    "\x7bPatterns:" ++ Model.listed patterns ++ " Mode:" ++ toString mode.code ++
      " Platform: Tests:" ++ toString withTests ++ "\x7d"

/-- Why a builder gives no program. -/
inductive Failure where
  /-- The file of the model cannot be read. -/
  | noFile (e : ReadFailure)
  /-- The file holds no model. -/
  | unreadable (e : Model.Unreadable)
  /-- The model describes no program. -/
  | invalid (path : String) (e : Model.Invalid)
  /-- There is nothing here that loads packages. -/
  | noLoader

/-- The wording of the failure. -/
def Failure.message : Failure → String
  | .noFile e => "could not read model file: " ++ e.message
  | .unreadable e => e.message
  | .invalid path e => "invalid model " ++ path ++ ": " ++ e.message
  | .noLoader => "could not load program: Go packages cannot be loaded"

/-- The path of a model: as it is given if it leads somewhere, else relative to the
    configuration. -/
def located {m : Type → Type} [Monad m] (host : Host m) (c : Config) (path : String) :
    m String := do
  if Path.isAbsolute path then pure path
  else if ← host.isPresent path then pure path
  else pure (c.relativePath path)

/-- The program of the text of a model. -/
def ofText (path text : String) : Except Failure (Model × Program) :=
  match Model.parse text with
  | .error e => .error (.unreadable e)
  | .ok described =>
    match described.program with
    | .error e => .error (.invalid path e)
    | .ok program => .ok (described, program)

/-- What is printed about a model. -/
def modelLog (policy : Log.Policy) (path : String) (described : Model) : List Log.Entry :=
  policy.debug ("Model " ++ path ++ ": " ++ toString described.classes.length ++ " classes, " ++
    toString described.nodes.length ++ " nodes, " ++ toString described.edges.length ++ " edges")

/-- The program that a builder gives. -/
def build {m : Type → Type} [Monad m] (host : Host m) (c : Config) : Builder → m Build
  | .packages patterns _ _ =>
    pure ⟨.error (.failed Failure.noLoader.message),
      c.policy.info ("Loading packages " ++ Model.listed patterns)⟩
  | .model given => do
    let path ← located host c given
    let begun := c.policy.info ("Loading program model " ++ path)
    match ← host.read path with
    | .error e => pure ⟨.error (.failed (Failure.noFile e).message), begun⟩
    | .ok text =>
      match ofText path text with
      | .error e => pure ⟨.error (.failed e.message), begun⟩
      | .ok (described, program) => pure ⟨.ok program, begun ++ modelLog c.policy path described⟩

end Builder

end TaintSeed.Command
