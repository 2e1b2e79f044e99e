/-!
What a user can choose: how much is said, whether colors are used, how diagnostics are written, how
many workers share a package, whether diagnostics make a check fail, and which source files are left
out.
-/

namespace ZeroError

inductive Verbosity
  | quiet
  | normal
  | verbose
  | debug
  | trace
deriving DecidableEq, Repr

namespace Verbosity

def all : List Verbosity :=
  [quiet, normal, verbose, debug, trace]

def name : Verbosity → String
  | quiet => "quiet"
  | normal => "normal"
  | verbose => "verbose"
  | debug => "debug"
  | trace => "trace"

/-- The level that two flags ask for; being quiet wins over any number of requests to say more. -/
def ofFlags (quiet : Bool) (requests : Nat) : Verbosity :=
  if quiet then .quiet
  else
    match requests with
    | 0 => normal
    | 1 => verbose
    | 2 => debug
    | _ => trace

def isQuiet (level : Verbosity) : Bool :=
  level == quiet

def isVerbose : Verbosity → Bool
  | quiet | normal => false
  | verbose | debug | trace => true

def logFilter : Verbosity → String
  | quiet => "error"
  | normal => "warn"
  | verbose => "info"
  | debug => "debug"
  | trace => "trace"

end Verbosity

/-- Whether colors are used; `auto` uses them on a terminal. -/
inductive ColorChoice
  | always
  | auto
  | never
deriving DecidableEq, Repr

namespace ColorChoice

def all : List ColorChoice :=
  [always, auto, never]

def name : ColorChoice → String
  | always => "always"
  | auto => "auto"
  | never => "never"

def isOn (onTerminal : Bool) : ColorChoice → Bool
  | always => true
  | auto => onTerminal
  | never => false

end ColorChoice

inductive OutputFormat
  | text
  | json
deriving DecidableEq, Repr

namespace OutputFormat

def all : List OutputFormat :=
  [text, json]

def name : OutputFormat → String
  | text => "text"
  | json => "json"

end OutputFormat

/-- What a user can choose. No workers asked for means as many as the machine has cores. -/
structure Settings where
  verbosity : Verbosity := .normal
  color : ColorChoice := .auto
  format : OutputFormat := .text
  jobs : UInt64 := 0
  failOnDiagnostics : Bool := true
  exclude : List String := []
deriving DecidableEq, Repr

end ZeroError
