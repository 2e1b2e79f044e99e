import ZeroError.Check
import ZeroError.Command.Arguments
import ZeroError.Settings.Writing

/-!
What the program answers to its arguments.
-/

namespace ZeroError.Command

open Analysis Files

def programVersion : String := "0.4.0"

def usageText : String :=
  "Usage: nilerr [-v]... [-q] [--color <auto|always|never>] [--config <FILE>] <COMMAND>\n\n" ++
    "Commands:\n" ++
    "  check <PATHS>...  Analyze package documents\n" ++
    "                    [--format <text|json>] [-j <JOBS>] [--exclude <GLOB>]... [--no-fail]\n" ++
    "  doc               Describe the analyzer\n" ++
    "  config            Show effective configuration\n" ++
    "  help              Show this text\n"

/-- An answer: what a command leaves behind, or an explanation of how to use the program. -/
inductive Response
  | done (outcome : Outcome)
  | usage (code : Nat)
deriving DecidableEq, Repr

def loadSettings (working : Entry) (path : String) : Except CheckFailure Settings := do
  let text ← (readText working path).mapError .unreadable
  (Settings.ofYaml text).mapError (fun fault => .configuration (path ++ ": " ++ fault.message))

namespace Invocation

def settings (invocation : Invocation) (working : Entry) : Except CheckFailure Settings := do
  let base ←
    match invocation.configFile with
    | some path => loadSettings working path
    | none => pure {}
  return invocation.applyTo base

def run (invocation : Invocation) (surroundings : Surroundings) : Outcome :=
  match invocation.settings surroundings.working with
  | .error failure => { code := failureCode, errors := "Error: " ++ failure.message ++ "\n" }
  | .ok settings =>
      match invocation.action with
      | .check options => ZeroError.check surroundings (options.applyTo settings) options.paths
      | .doc => { output := analyzerName ++ ": " ++ analyzerDoc ++ "\n" }
      | .config => { output := settings.toYaml }

end Invocation

def UsageFault.response : UsageFault → Response
  | .versionRequested program => .done { output := program ++ " " ++ programVersion ++ "\n" }
  | .helpRequested => .usage 0
  | _ => .usage 2

def respond (surroundings : Surroundings) (arguments : List String) : Response :=
  match Invocation.ofArguments arguments with
  | .ok invocation => .done (invocation.run surroundings)
  | .error fault => fault.response

end ZeroError.Command
