import ServerSetup.Disk
import ServerSetup.Path.Segment
import ServerSetup.Text.Lowercase

/-!
# Canonical paths

The home of an installation is known by its canonical path. Where the path leads to something on
disk it is shown with all links resolved, otherwise as it was written. Two paths are the same home
if their keys agree; the key forgets letter case and the difference between separators, and counts a
row of separators once.
-/

namespace ServerSetup

/-- The key of a path, where `behind` tells whether the character before was a separator. -/
def Path.keyAfter (behind : Bool) : List Char → List Char
  | [] => []
  | c :: rest =>
    if Path.isSeparator c then
      if behind then keyAfter true rest else '\\' :: keyAfter true rest
    else Text.lowercase c ++ keyAfter false rest

/-- The key by which paths are compared. -/
def Path.comparisonKey (path : String) : String :=
  String.ofList (Path.keyAfter false path.toList)

/-- A path in the form in which it is shown. -/
structure HomePath where
  shown : String
deriving DecidableEq

namespace HomePath

/-- The key by which canonical paths are compared. -/
def key (p : HomePath) : String := Path.comparisonKey p.shown

/-- Whether two canonical paths are the same home. -/
def same (p q : HomePath) : Bool := p.key == q.key

end HomePath

/-- A location as a path from the root. -/
def Location.path (l : Location) : String := "/" ++ String.intercalate "/" l

/-- The path as written, or with links resolved if it leads to something. -/
def Disk.resolved (d : Disk) (path : String) : String :=
  match d.find? path with
  | some (place, _) => place.path
  | none => path

/-- The canonical form of a path: without blanks around it and separators at its end, and resolved
if it leads to something. -/
def Disk.canonical (d : Disk) (path : String) : HomePath :=
  let written := String.ofList (Path.trimSeparators (Text.trim path.toList))
  ⟨String.ofList (Path.trimSeparators (d.resolved written).toList)⟩

end ServerSetup
