import ServerSetup.Path.Home
import ServerSetup.Path.Join

/-!
# Recognising an installation

A home test decides whether a directory is the home of an installation, and gives the canonical path
if it is.
-/

namespace ServerSetup

/-- Decides whether the directory at a path is the home of an installation. -/
abbrev HomeTest := Disk → String → Option HomePath

/-- The path of a marker below a directory. Either separator stands between the segments of a
marker. -/
def markerPath (directory marker : String) : String :=
  ((Text.splitWhere Path.isSeparator marker.toList).filter (! ·.isEmpty)).foldl
    (fun path segment => Path.join path (String.ofList segment)) directory

/-- A directory is a home if everything that the markers name is there. -/
def HomeTest.byMarkers (markers : List String) : HomeTest := fun disk directory =>
  if disk.isDirectory directory && markers.all (disk.pathExists <| markerPath directory ·) then
    some (disk.canonical directory)
  else none

/-- A directory that is one of the listed ones is a home; of others the markers decide. -/
def HomeTest.byList (roots markers : List String) : HomeTest := fun disk directory =>
  let home := disk.canonical directory
  if roots.any fun root => (disk.canonical root).same home then some home
  else HomeTest.byMarkers markers disk directory

/-- The configuration file of an installation, relative to its home. -/
def Disk.confFile? (disk : Disk) (home : String) : Option String :=
  let conf := Path.join home "conf"
  if disk.isFile (Path.join conf "resin.xml") then some "conf\\resin.xml"
  else if disk.isFile (Path.join conf "resin.conf") then some "conf\\resin.conf"
  else none

end ServerSetup
