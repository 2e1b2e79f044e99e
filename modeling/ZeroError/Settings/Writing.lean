import ZeroError.Settings.Basic
import ZeroError.Yaml.Printer

/-!
Writing settings as a configuration text: every setting on a line of its own, and the patterns to
exclude as a sequence below theirs.
-/

namespace ZeroError.Settings

def excludeLines (patterns : List String) : String :=
  if patterns.isEmpty then "exclude: []\n"
  else "exclude:\n" ++ String.join (patterns.map Yaml.itemLine)

def toYaml (settings : Settings) : String :=
  "verbosity: " ++ settings.verbosity.name ++ "\n" ++
    "color: " ++ settings.color.name ++ "\n" ++
    "format: " ++ settings.format.name ++ "\n" ++
    "jobs: " ++ toString settings.jobs.toNat ++ "\n" ++
    "fail_on_diagnostics: " ++ (if settings.failOnDiagnostics then "true" else "false") ++ "\n" ++
    excludeLines settings.exclude

end ZeroError.Settings
