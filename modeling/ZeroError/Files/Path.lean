/-!
Paths, seen as their components. Slashes in a row count as one, and a dot stands for a component
only at the start of a path.
-/

namespace ZeroError.Files

inductive Part
  | root
  | here
  | up
  | name (text : String)
deriving DecidableEq, Repr

/-- The pieces of a text between slashes, some of which may be empty. -/
def splitSlashes (text : String) : List String :=
  (go text.toList).map String.ofList
where
  go : List Char → List (List Char)
  | [] => [[]]
  | c :: rest =>
      if c = '/' then [] :: go rest
      else
        match go rest with
        | piece :: pieces => (c :: piece) :: pieces
        | [] => [[c]]

def Part.ofPiece? (piece : String) : Option Part :=
  if piece.isEmpty || piece == "." then none
  else if piece == ".." then some .up
  else some (.name piece)

def parts (path : String) : List Part :=
  match splitSlashes path with
  | "" :: [] => []
  | "" :: pieces => .root :: pieces.filterMap Part.ofPiece?
  | "." :: pieces => .here :: pieces.filterMap Part.ofPiece?
  | pieces => pieces.filterMap Part.ofPiece?

def Part.rank : Part → Nat
  | .root => 0
  | .here => 1
  | .up => 2
  | .name _ => 3

/-- Whether a component comes strictly before another. Names come in alphabetical order. -/
def Part.isBefore : Part → Part → Bool
  | .name first, .name second => first < second
  | first, second => first.rank < second.rank

/-- Whether a list of components comes before another or is the same. -/
def partsAreOrdered : List Part → List Part → Bool
  | [], _ => true
  | _ :: _, [] => false
  | first :: firsts, second :: seconds =>
      if first = second then partsAreOrdered firsts seconds else first.isBefore second

def sortPaths (paths : List String) : List String :=
  paths.mergeSort (fun first second => partsAreOrdered (parts first) (parts second))

def dropRepeated (paths : List String) : List String :=
  paths.foldl
    (fun kept path => if kept.any (fun known => parts known = parts path) then kept else kept ++ [path])
    []

end ZeroError.Files
