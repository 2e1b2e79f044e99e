import ZeroError.Command.Respond

/-!
The program itself. It looks at the files that its arguments name, asks `Command.respond` for the
answer and writes it.
-/

open ZeroError ZeroError.Command ZeroError.Files

namespace ZeroError.Main

def maxDepth : Nat := 128

/-- Whether the content of a file below a directory can be asked for. -/
def isDocument (name : String) : Bool :=
  name.endsWith ".json"

def contentAt (path : String) : IO (Option String) := do
  return String.fromUTF8? (← IO.FS.readBinFile path)

/-- What is at a path, with everything below it. Below a directory only documents are read. -/
def entryAt : (depth : Nat) → (path : String) → (isRead : Bool) → IO Entry
  | 0, _, _ => return .file none
  | depth + 1, path, isRead => do
      let place ← IO.FS.realPath path
      if ← place.isDir then
        let children ← place.readDir
        let entries ← children.toList.filterMapM (fun child => do
          let name := child.fileName
          try return some (name, ← entryAt depth (path ++ "/" ++ name) (isDocument name))
          catch _ => return none)
        return .directory entries
      else if isRead then return .file (← contentAt path)
      else return .file none

def addPath (working : Entry) (names : List String) (path : String) : IO Entry := do
  try return working.insert names (← entryAt maxDepth path true)
  catch _ => return working

/-- Adds a place that a path passes, without anything that is below it. -/
def addPassed (working : Entry) (names : List String) : IO Entry := do
  try
    let place ← IO.FS.realPath (String.intercalate "/" names)
    return working.insert names (if ← place.isDir then .directory [] else .file none)
  catch _ => return working

/-- The names that lead to the places that a path passes, from the working directory. -/
def passedPlaces (path : String) : List (List String) :=
  let step (passed : List (List String)) (piece : String) : List (List String) :=
    let names := passed.getLast?.getD []
    if piece.isEmpty || piece == "." then passed
    else if piece == ".." && names.any (fun name => !isOrigin name) then passed ++ [names.dropLast]
    else passed ++ [names ++ [piece]]
  match splitSlashes path with
  | "" :: pieces => pieces.foldl step [["/"]]
  | pieces => pieces.foldl step []

/-- Adds everything that a path leads to. The text of a directory may turn out to be a pattern, in
which case everything below the working directory may be meant. -/
def addArgument (working : Entry) (path : String) : IO Entry := do
  let places := passedPlaces path
  let working ← places.dropLast.foldlM addPassed working
  let working ← addPath working (places.getLast?.getD []) path
  if path.toList.any (fun c => c == '*' || c == '?' || c == '[') then addPath working [] "."
  else return working

def pathsOf (arguments : List String) : List String :=
  match Invocation.ofArguments arguments with
  | .error _ => []
  | .ok invocation =>
      let documents := match invocation.action with
        | .check options => options.paths
        | .doc | .config => []
      invocation.configFile.toList ++ documents

end ZeroError.Main

def main (arguments : List String) : IO UInt32 := do
  let output ← IO.getStdout
  let errors ← IO.getStderr
  let working ← (ZeroError.Main.pathsOf arguments).foldlM ZeroError.Main.addArgument (.directory [])
  let surroundings : Surroundings := { working := working, onTerminal := ← output.isTty }
  match respond surroundings arguments with
  | .done outcome =>
      output.putStr outcome.output
      errors.putStr outcome.errors
      return UInt32.ofNat outcome.code
  | .usage code =>
      (if code = 0 then output else errors).putStr usageText
      return UInt32.ofNat code
