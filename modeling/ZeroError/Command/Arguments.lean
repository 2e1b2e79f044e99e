import ZeroError.Settings.Basic

/-!
The arguments of a command. Four options may stand before or after the name of the command, and the
later place wins; the others belong to `check` alone. An option's value may be attached by an equals
sign, or to a short option directly; a value of its own is looked at only when the next option, the
next path or the end shows that it is complete.
-/

namespace ZeroError.Command

/-- Why arguments do not make up a command, or what they ask for instead of one. -/
inductive UsageFault
  | helpRequested
  | versionRequested (program : String)
  | nothingGiven
  | missingCommand
  | unknownCommand
  | missingPath
  | unknownArgument
  | badChoice
  | badNumber
  | repeatedOption
  | unexpectedValue
deriving DecidableEq, Repr

inductive Opt
  | verbose
  | quiet
  | color
  | config
  | format
  | jobs
  | exclude
  | noFail
  | help
  | version
deriving DecidableEq, Repr

namespace Opt

def long : Opt → String
  | verbose => "verbose"
  | quiet => "quiet"
  | color => "color"
  | config => "config"
  | format => "format"
  | jobs => "jobs"
  | exclude => "exclude"
  | noFail => "no-fail"
  | help => "help"
  | version => "version"

def short? : Opt → Option Char
  | verbose => some 'v'
  | quiet => some 'q'
  | jobs => some 'j'
  | help => some 'h'
  | version => some 'V'
  | _ => none

def hasValue : Opt → Bool
  | color | config | format | jobs | exclude => true
  | verbose | quiet | noFail | help | version => false

end Opt

/-- Where arguments stand: before the name of a command, or after it. -/
inductive Scope
  | outer
  | check
  | doc
  | config
deriving DecidableEq, Repr

namespace Scope

def ofCommand? (name : String) : Option Scope :=
  if name == "check" then some check
  else if name == "doc" then some doc
  else if name == "config" then some config
  else none

def options : Scope → List Opt
  | check =>
      [.verbose, .quiet, .color, .config, .format, .jobs, .exclude, .noFail, .help, .version]
  | outer | doc | config => [.verbose, .quiet, .color, .config, .help, .version]

def program : Scope → String
  | outer => "nilerr"
  | check => "nilerr-check"
  | doc => "nilerr-doc"
  | config => "nilerr-config"

def long? (scope : Scope) (name : String) : Option Opt :=
  scope.options.find? (fun option => option.long == name)

def short? (scope : Scope) (name : Char) : Option Opt :=
  scope.options.find? (fun option => option.short? == some name)

end Scope

structure Given where
  verbose : Nat := 0
  quiet : Bool := false
  color : Option ColorChoice := none
  config : Option String := none
  format : Option OutputFormat := none
  jobs : Option UInt64 := none
  exclude : List String := []
  noFail : Bool := false
  paths : List String := []
deriving DecidableEq, Repr

def maxRequests : Nat := 255

def number? (text : String) : Option UInt64 :=
  let digits := match text.toList with
    | '+' :: rest => rest
    | all => all
  if digits.isEmpty || !digits.all Char.isDigit then none
  else
    let value := digits.foldl (fun value digit => value * 10 + (digit.toNat - '0'.toNat)) 0
    if value < UInt64.size then some (UInt64.ofNat value) else none

def choice {α : Type} (choices : List α) (nameOf : α → String) (name : String) :
    Except UsageFault α :=
  match choices.find? (fun choice => nameOf choice == name) with
  | some choice => .ok choice
  | none => .error .badChoice

def pathValue (text : String) : Except UsageFault String :=
  if text.isEmpty then .error .badChoice else .ok text

def numberValue (text : String) : Except UsageFault UInt64 :=
  match number? text with
  | some value => .ok value
  | none => .error .badNumber

def once {α : Type} (known : Option α) (read : Except UsageFault α) : Except UsageFault (Option α) :=
  if known.isSome then .error .repeatedOption else read.map some

namespace Given

def isAny (given : Given) : Bool :=
  given != {}

def takeValue (given : Given) (option : Opt) (value : String) : Except UsageFault Given := do
  match option with
  | .color =>
      let color ← once given.color (choice ColorChoice.all ColorChoice.name value)
      return { given with color := color }
  | .config =>
      let config ← once given.config (pathValue value)
      return { given with config := config }
  | .format =>
      let format ← once given.format (choice OutputFormat.all OutputFormat.name value)
      return { given with format := format }
  | .jobs =>
      let jobs ← once given.jobs (numberValue value)
      return { given with jobs := jobs }
  | .exclude => return { given with exclude := given.exclude ++ [value] }
  | .verbose | .quiet | .noFail | .help | .version => .error .unexpectedValue

def takeFlag (given : Given) (scope : Scope) (option : Opt) : Except UsageFault Given :=
  match option with
  | .verbose => .ok { given with verbose := min (given.verbose + 1) maxRequests }
  | .quiet => if given.quiet then .error .repeatedOption else .ok { given with quiet := true }
  | .noFail => if given.noFail then .error .repeatedOption else .ok { given with noFail := true }
  | .help => .error .helpRequested
  | .version => .error (.versionRequested scope.program)
  | .color | .config | .format | .jobs | .exclude => .error .badChoice

end Given

/-- What has been met but not yet looked at: an option whose value may still be missing, or
paths. -/
inductive Pending
  | nothing
  | option (option : Opt) (value : Option String)
  | paths (paths : List String)
deriving DecidableEq, Repr

structure Progress where
  scope : Scope
  given : Given := {}
  pending : Pending := .nothing
  /-- Whether two hyphens by themselves have been met, after which there are only paths. -/
  onlyPaths : Bool := false
deriving DecidableEq, Repr

namespace Progress

def awaitsValue (progress : Progress) : Bool :=
  match progress.pending with
  | .option _ none => true
  | _ => false

def settle (progress : Progress) : Except UsageFault Progress := do
  match progress.pending with
  | .nothing => return progress
  | .option _ none => .error .badChoice
  | .option option (some value) =>
      return { progress with given := ← progress.given.takeValue option value, pending := .nothing }
  | .paths paths =>
      let paths ← paths.mapM pathValue
      return {
        progress with
        given := { progress.given with paths := progress.given.paths ++ paths }
        pending := .nothing }

def takeFlag (progress : Progress) (option : Opt) : Except UsageFault Progress := do
  let progress ← progress.settle
  return { progress with given := ← progress.given.takeFlag progress.scope option }

def takeOption (progress : Progress) (option : Opt) (attached : Option String) :
    Except UsageFault Progress := do
  let progress ← progress.settle
  match attached with
  | some value => return { progress with given := ← progress.given.takeValue option value }
  | none => return { progress with pending := .option option none }

def takeLong (progress : Progress) (name : String) (attached : Option String) :
    Except UsageFault Progress :=
  match progress.scope.long? name with
  | none => .error .unknownArgument
  | some option =>
      if option.hasValue then progress.takeOption option attached
      else if attached.isSome then .error .unexpectedValue
      else progress.takeFlag option

def attachedToShort : List Char → Option String
  | [] => none
  | '=' :: value => some (String.ofList value)
  | value => some (String.ofList value)

def takeShorts : Progress → List Char → Except UsageFault Progress
  | progress, [] => .ok progress
  | progress, name :: rest =>
      match progress.scope.short? name with
      | none => .error .unknownArgument
      | some option =>
          if option.hasValue then progress.takeOption option (attachedToShort rest)
          else do takeShorts (← progress.takeFlag option) rest

def takePlain (progress : Progress) (argument : String) : Except UsageFault Progress := do
  match progress.pending with
  | .option option none =>
      if progress.onlyPaths then .error .badChoice
      else return { progress with pending := .option option (some argument) }
  | .paths paths => return { progress with pending := .paths (paths ++ [argument]) }
  | _ =>
      let progress ← progress.settle
      return { progress with pending := .paths [argument] }

end Progress

inductive Shape
  | separator
  | long (name : String) (attached : Option String)
  | short (names : List Char)
  | plain

def splitLong (text : List Char) : String × Option String :=
  match text.dropWhile (· ≠ '=') with
  | _ :: value => (String.ofList (text.takeWhile (· ≠ '=')), some (String.ofList value))
  | [] => (String.ofList text, none)

/-- What an argument looks like. A hyphen by itself is no option. -/
def shapeOf (argument : String) : Shape :=
  match argument.toList with
  | ['-', '-'] => .separator
  | '-' :: '-' :: rest =>
      let (name, attached) := splitLong rest
      .long name attached
  | '-' :: name :: names => .short (name :: names)
  | _ => .plain

/-- Takes an argument after the name of a command. Only `check` has paths. -/
def Progress.take (progress : Progress) (argument : String) : Except UsageFault Progress :=
  let asPlain : Except UsageFault Progress :=
    if progress.scope == .check || (progress.awaitsValue && !progress.onlyPaths) then
      progress.takePlain argument
    else .error .unknownArgument
  if progress.onlyPaths then asPlain
  else
    match shapeOf argument with
    | .separator => .ok { progress with onlyPaths := true }
    | .long name attached => progress.takeLong name attached
    | .short names => progress.takeShorts names
    | .plain => asPlain

def readInner (scope : Scope) (arguments : List String) : Except UsageFault Given := do
  let progress ← arguments.foldlM Progress.take { scope := scope }
  return (← progress.settle).given

/-- What the arguments after `help` ask for: at most one of them, the name of a command. -/
def readHelp : List String → UsageFault
  | [] => .helpRequested
  | [name] =>
      if (Scope.ofCommand? name).isSome || name == "help" then .helpRequested else .unknownCommand
  | _ => .unknownCommand

/-- What is given before the name of a command, its scope, and the arguments after it. -/
def readOuter : Progress → List String →
    Except UsageFault (Progress × Option (Scope × List String))
  | progress, [] => .ok (progress, none)
  | progress, argument :: arguments =>
      let isHelp := argument == "help"
      if progress.onlyPaths then
        if isHelp || (Scope.ofCommand? argument).isSome then .error .unknownArgument
        else .error .unknownCommand
      else if isHelp && !progress.awaitsValue then .error (readHelp arguments)
      else
        match if progress.awaitsValue then none else Scope.ofCommand? argument with
        | some scope => .ok (progress, some (scope, arguments))
        | none =>
            match shapeOf argument with
            | .separator => readOuter { progress with onlyPaths := true } arguments
            | .long name attached => do readOuter (← progress.takeLong name attached) arguments
            | .short names => do readOuter (← progress.takeShorts names) arguments
            | .plain =>
                if progress.awaitsValue then do readOuter (← progress.takePlain argument) arguments
                else .error .unknownCommand

structure CheckOptions where
  paths : List String
  format : Option OutputFormat := none
  jobs : Option UInt64 := none
  exclude : List String := []
  noFail : Bool := false
deriving DecidableEq, Repr

/-- What a command does: check documents, describe the analyzer, or show the settings. -/
inductive Action
  | check (options : CheckOptions)
  | doc
  | config
deriving DecidableEq, Repr

/-- A command: what it does, and the options that all commands share. -/
structure Invocation where
  verbose : Nat := 0
  quiet : Bool := false
  color : Option ColorChoice := none
  configFile : Option String := none
  action : Action
deriving DecidableEq, Repr

/-- What the command of a scope does, given what stands after its name. -/
def actionOf (scope : Scope) (given : Given) : Except UsageFault Action :=
  match scope with
  | .check =>
      if given.paths.isEmpty then .error .missingPath
      else
        .ok (.check {
          paths := given.paths
          format := given.format
          jobs := given.jobs
          exclude := given.exclude
          noFail := given.noFail })
  | .doc => .ok .doc
  | .config => .ok .config
  | .outer => .error .missingCommand

/-- Reads the arguments of the program. What stands after the name of the command is looked at
first, and wins over what stands before it. -/
def Invocation.ofArguments (arguments : List String) : Except UsageFault Invocation := do
  let (progress, rest) ← readOuter { scope := .outer } arguments
  match rest with
  | none =>
      let outer := (← progress.settle).given
      if outer.isAny then .error .missingCommand else .error .nothingGiven
  | some (scope, arguments) =>
      let inner ← readInner scope arguments
      let action ← actionOf scope inner
      let outer := (← progress.settle).given
      return {
        verbose := if inner.verbose = 0 then outer.verbose else inner.verbose
        quiet := outer.quiet || inner.quiet
        color := inner.color <|> outer.color
        configFile := inner.config <|> outer.config
        action := action }

def Invocation.applyTo (invocation : Invocation) (settings : Settings) : Settings :=
  { settings with
    verbosity :=
      if invocation.quiet || 0 < invocation.verbose then
        Verbosity.ofFlags invocation.quiet invocation.verbose
      else settings.verbosity
    color := invocation.color.getD settings.color }

def CheckOptions.applyTo (options : CheckOptions) (settings : Settings) : Settings :=
  { settings with
    format := options.format.getD settings.format
    jobs := options.jobs.getD settings.jobs
    failOnDiagnostics := settings.failOnDiagnostics && !options.noFail
    exclude := settings.exclude ++ options.exclude }

end ZeroError.Command
