import ZeroError.Failure
import ZeroError.Files.Path

/-!
The files that paths lead to, seen from the working directory.
-/

namespace ZeroError.Files

/-- A file or a directory. A file whose bytes are no text has no content to read. -/
inductive Entry
  | file (content : Option String)
  | directory (children : List (String × Entry))

/-- The names under which the working directory holds the root and its own parent, if paths lead
there. They are not among its files. -/
def isOrigin (name : String) : Bool :=
  name == "/" || name == ".."

namespace Entry

def isDirectory : Entry → Bool
  | .directory _ => true
  | .file _ => false

def children : Entry → List (String × Entry)
  | .directory children => children.filter (fun child => !isOrigin child.1)
  | .file _ => []

end Entry

structure Located where
  entry : Entry
  above : List Entry := []

namespace Located

def enter (located : Located) (name : String) : Except ReadCause Located :=
  match located.entry with
  | .file _ => .error .notDirectory
  | .directory children =>
      match children.lookup name with
      | some child => .ok { entry := child, above := located.entry :: located.above }
      | none => .error .notFound

def leave (located : Located) : Except ReadCause Located :=
  match located.entry, located.above with
  | .file _, _ => .error .notDirectory
  | .directory _, nearest :: others => .ok { entry := nearest, above := others }
  | .directory children, [] =>
      match children.lookup ".." with
      | some parent => .ok { entry := parent }
      | none => .error .notFound

def stay (located : Located) : Except ReadCause Located :=
  if located.entry.isDirectory then .ok located else .error .notDirectory

def follow (located : Located) (piece : String) : Except ReadCause Located :=
  if piece.isEmpty || piece == "." then located.stay
  else if piece == ".." then located.leave
  else located.enter piece

end Located

/-- The root, if paths lead there. Nothing is above it. -/
def findRoot (working : Entry) : Except ReadCause Located := do
  let start : Located := { entry := working }
  return { entry := (← start.enter "/").entry }

def find (working : Entry) (path : String) : Except ReadCause Located :=
  match splitSlashes path with
  | "" :: [] => .error .notFound
  | "" :: pieces => do pieces.foldlM Located.follow (← findRoot working)
  | pieces => pieces.foldlM Located.follow { entry := working }

def isDirectory (working : Entry) (path : String) : Bool :=
  match find working path with
  | .ok located => located.entry.isDirectory
  | .error _ => false

def isFile (working : Entry) (path : String) : Bool :=
  match find working path with
  | .ok located => !located.entry.isDirectory
  | .error _ => false

def readText (working : Entry) (path : String) : Except ReadCause String := do
  match (← find working path).entry with
  | .directory _ => .error .isDirectory
  | .file none => .error .notText
  | .file (some content) => .ok content

namespace Entry

/-- Two entries at the same place as one. Children of the same name are taken from the second. -/
def merge : Entry → Entry → Entry
  | .directory known, .directory more =>
      .directory (more ++ known.filter (fun child => !more.any (fun other => other.1 == child.1)))
  | _, entry => entry

/-- Puts an entry at the place that some names lead to. Directories on the way are made if they are
missing. -/
def insert (working : Entry) : List String → Entry → Entry
  | [], entry => working.merge entry
  | name :: names, entry =>
      let known := match working with
        | .directory children => children
        | .file _ => []
      let child := (known.lookup name).getD (.directory [])
      working.merge (.directory [(name, child.insert names entry)])

end Entry

end ZeroError.Files
