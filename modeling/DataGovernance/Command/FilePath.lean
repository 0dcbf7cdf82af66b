/-!
# Paths of files

A path is a text of names with slashes between them. It starts at the root when it begins with a
slash, and else in some directory. Empty names and single points lead nowhere.

Key definitions: `isAbsolute`, `names`, `join`, `ofNames`, `upwards`, `searchPaths`, `way`.
-/

namespace DataGovernance.FilePath

/-- Whether a path starts at the root. -/
def isAbsolute (path : String) : Bool := path.toList.head? == some '/'

/-- The names that a path goes through. -/
def names (path : String) : List String :=
  ((path.toList.splitOn '/').map String.ofList).filter fun name => name ≠ "" ∧ name ≠ "."

/-- A path that is taken in a directory. -/
def join (directory path : String) : String :=
  if isAbsolute path then path
  else if directory = "" ∨ directory.toList.getLast? = some '/' then directory ++ path
  else directory ++ "/" ++ path

/-- The path through names. -/
def ofNames (fromRoot : Bool) (names : List String) : String :=
  (if fromRoot then "/" else "") ++ String.intercalate "/" names

/-- Names, then the same without the last of them, and so on: at most `n` times. -/
def upwards : Nat → List String → List (List String)
  | 0, _ => []
  | _, [] => [[]]
  | n + 1, name :: names => (name :: names) :: upwards n (name :: names).dropLast

/-- A path taken in a directory, and then in each of the directories above it, up to the root. A
path that starts at the root is the same in all of them. -/
def searchPaths (directory path : String) : List String :=
  let here := names directory
  join directory path ::
    (upwards here.length here.dropLast).map fun above => join (ofNames true above) path

/-- The way from one place below the root to another. -/
def way : List String → List String → List String
  | here :: base, name :: names =>
    if here = name then way base names else ".." :: base.map (fun _ => "..") ++ name :: names
  | base, names => base.map (fun _ => "..") ++ names

end DataGovernance.FilePath
