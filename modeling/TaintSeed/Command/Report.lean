import TaintSeed.Command.Options
import TaintSeed.Session

/-!
# What Commands Report

A command prints its result, and reports on the way what it does. It may fail
before it has a result, or while it computes one.

## Main definitions

* `Failure`: Why a command has no result.
* `Report`: What a command prints.
-/

namespace TaintSeed.Command

/-- The version of the commands. -/
def version : String := "v0.1.0"

/-- Why a command has no result. -/
inductive Failure where
  /-- The name of a view is not known. -/
  | unknownView (name : String)
  /-- There is no configuration. -/
  | noConfig (e : Options.NoConfig)
  /-- It is not said where the program comes from. -/
  | noBuilder (e : Options.NoBuilder)
  /-- The sources cannot be resolved. -/
  | noFacts (e : Session.Failure)
  /-- The call graph cannot be cut into views. -/
  | noViews (e : Build.Failure)

/-- The names of the views. -/
def viewNames : List String := ["application", "one-hop", "boundary"]

/-- The wording of the failure. -/
def Failure.message : Failure → String
  | .unknownView name =>
    "unknown view " ++ Text.Quoted.quote name ++ ", expected one of " ++ Model.listed viewNames
  | .noConfig e => e.message
  | .noBuilder e => e.message
  | .noFacts e => "seeding failed: " ++ e.message
  | .noViews e => "could not build the views: " ++ e.message

/-- What the failure holds on to. -/
def Failure.chain : Failure → List Sentinel
  | .noFacts e => e.chain
  | .noViews e => e.chain
  | _ => []

/-- What a command prints. -/
structure Report where
  /-- The number with which the command ends if nothing fails. -/
  status : Nat
  /-- The result. -/
  output : String
  /-- The lines of the log. -/
  log : List String
  /-- Why there is no result, if so. -/
  failure? : Option Failure

namespace Report

/-- The report of a command that failed before it did anything. -/
def failed (e : Failure) : Report := ⟨1, "", [], some e⟩

/-- Does with the configuration and the builder of the options what `f` says. -/
def withProgram {m : Type → Type} [Monad m] (host : Host m) (o : Options)
    (f : Config → m Build → m Report) : m Report := do
  match ← o.config host with
  | .error e => pure (failed (.noConfig e))
  | .ok c =>
    match o.builder with
    | .error e => pure (failed (.noBuilder e))
    | .ok b => f c (b.build host c)

end Report

end TaintSeed.Command
