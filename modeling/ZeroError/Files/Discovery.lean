import ZeroError.Files.Tree
import ZeroError.Glob

/-!
Finding package documents. A path that leads to a file is a document by itself; a directory is
searched at every depth for names that end in `.json`. The text of the directory's path is part of
the pattern that is searched for, so special characters in it are not taken literally.
-/

namespace ZeroError.Files

open Glob (Pattern)

inductive SearchFailure
  | badPattern (path : String) (fault : Glob.Fault)
  | missing (path : String)
deriving DecidableEq, Repr

def SearchFailure.message : SearchFailure → String
  | .badPattern path fault => "cannot search " ++ path ++ ": " ++ fault.message
  | .missing path => path ++ " does not exist"

/-- An entry on the way of a search, with the pieces of its path as it will be printed. -/
structure Place where
  pieces : List String
  located : Located

namespace Place

def start (working : Entry) : Place :=
  { pieces := ["."], located := { entry := working } }

def root (working : Entry) : List Place :=
  match findRoot working with
  | .ok located => [{ pieces := [""], located := located }]
  | .error _ => []

/-- Whether this is the working directory itself, whose name is left out of paths. -/
def isStart (place : Place) : Bool :=
  place.pieces.all (· == ".")

def piecesOf (place : Place) (name : String) : List String :=
  if place.isStart then [name] else place.pieces ++ [name]

def path (place : Place) : String :=
  String.intercalate "/" place.pieces

def name (place : Place) : String :=
  place.pieces.getLast?.getD ""

def children (place : Place) : List Place :=
  place.located.entry.children.map (fun child =>
    { pieces := place.piecesOf child.1
      located := { entry := child.2, above := place.located.entry :: place.located.above } })

/-- Everything below a place, a directory before what it holds. The fuel bounds the depth. -/
def belowWithin : (fuel : Nat) → Place → List Place
  | 0, _ => []
  | fuel + 1, place => place.children.flatMap (fun child => child :: belowWithin fuel child)

end Place

mutual

def Entry.depth : Entry → Nat
  | .file _ => 0
  | .directory children => depthOfChildren children + 1

def depthOfChildren : List (String × Entry) → Nat
  | [] => 0
  | (_, entry) :: children => max entry.depth (depthOfChildren children)

end

namespace Place

def below (place : Place) : List Place :=
  place.belowWithin place.located.entry.depth

def followLiteral (place : Place) (piece : String) : List Place :=
  if piece.isEmpty then
    if place.isStart || !place.located.entry.isDirectory then [] else [place]
  else
    match place.located.follow piece with
    | .ok located => [{ pieces := place.piecesOf piece, located := located }]
    | .error _ => []

/-- The names of a directory itself and of the one above it. A pattern matches them only if it
starts with a dot. -/
def followDots (place : Place) (pattern : Pattern) : List Place :=
  if place.located.entry.isDirectory && pattern.tokens.head? == some (.char '.') then
    [".", ".."].flatMap (fun dots =>
      if pattern.isMatch dots then
        match place.located.follow dots with
        | .ok located => [{ pieces := place.pieces ++ [dots], located := located }]
        | .error _ => []
      else [])
  else []

def follow (place : Place) (pattern : Pattern) : List Place :=
  match pattern.literal? with
  | some piece => place.followLiteral piece
  | none =>
      place.children.filter (fun child => pattern.isMatch child.name) ++ place.followDots pattern

end Place

/-- The places that patterns for one component each lead to. After a pattern for any number of
components, the next one is met at every depth. -/
def search : (anyDepth : Bool) → List Pattern → List Place → List Place
  | _, [], places => places
  | anyDepth, pattern :: patterns, places =>
      if pattern.isRecursive then search true patterns places
      else if anyDepth then
        search false patterns
          (places.flatMap (fun place =>
            place.below.filter (fun lower => pattern.isMatch lower.name)))
      else search false patterns (places.flatMap (fun place => place.follow pattern))

def documentPattern (path : String) : String :=
  path ++ (if path.toList.getLast? == some '/' then "" else "/") ++ "**/*.json"

/-- Where the search for a pattern starts, and the pieces of the pattern from there on. -/
def searchStart (working : Entry) (pattern : String) : List Place × List String :=
  match splitSlashes pattern with
  | "" :: pieces => (Place.root working, pieces)
  | pieces => ([Place.start working], pieces)

/-- The documents of a directory. The pattern must be valid as a whole and component by
component. -/
def searchDirectory (working : Entry) (path : String) : Except Glob.Fault (List String) := do
  let text := documentPattern path
  let _ ← Pattern.ofText text
  let (places, pieces) := searchStart working text
  let patterns ← pieces.mapM Pattern.ofText
  return sortPaths ((search false patterns places).map Place.path)

def documentsAt (working : Entry) (path : String) : Except SearchFailure (List String) :=
  if isDirectory working path then
    (searchDirectory working path).mapError (SearchFailure.badPattern path)
  else if isFile working path then .ok [path]
  else .error (.missing path)

def discover (working : Entry) (paths : List String) : Except SearchFailure (List String) := do
  let found ← paths.mapM (documentsAt working)
  return dropRepeated found.flatten

end ZeroError.Files
