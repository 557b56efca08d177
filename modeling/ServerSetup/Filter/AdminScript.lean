import ServerSetup.Settings
import ServerSetup.Host
import ServerSetup.Text.Decimal
import ServerSetup.Text.Utf8
import ServerSetup.Filter.Listing

/-!
# The administration script

The web server's store of filters as its administration script gives access to it: each question and
each change is one run of the script, and the answers are listings. A change takes effect with its
run, so there is nothing left to make permanent.
-/

namespace ServerSetup

/-- How a run of a program ended: its exit code and what it wrote. -/
structure ProgramRun where
  code : UInt8 := 0
  output : List UInt8 := []
  errors : List UInt8 := []

/-- The administration script, and how the script host is started with arguments. -/
structure AdminScript (η : Type) where
  path : String
  start : List String → StateM (World η) (Except IoKind ProgramRun)

namespace AdminScript

/-- Where the script is: where the configuration says, or else at its usual place on the system
drive. -/
def locate (filter : FilterSettings) (env : Environment) : Except Fault String :=
  match filter.adminScript with
  | some path => .ok path
  | none => (env.require "SystemDrive").map fun drive =>
      ["Inetpub", "AdminScripts", "adsutil.vbs"].foldl Path.join (drive ++ "\\")

/-- The node of all filters. -/
def filtersNode : String := "W3SVC/Filters"

/-- The node of the default site's scripts. -/
def scriptsNode : String := "W3SVC/1/ROOT/scripts"

/-- A node or a property below a node. -/
def below (node name : String) : String := node ++ "/" ++ name

/-- The words for a run that did not succeed. -/
def failure (arguments : List String) (run : ProgramRun) : String :=
  "adsutil " ++ arguments.head?.getD "" ++ " 执行失败: exit status: " ++ run.code.toNat.repr ++
    "\n" ++ Text.ofBytesLossy run.output ++ "\n" ++ Text.ofBytesLossy run.errors

variable {η : Type} (s : AdminScript η)

/-- Starts the script host. No argument of a program can hold a NUL. -/
def launch (line : List String) : StateM (World η) (Except IoKind ProgramRun) :=
  if line.any (·.toList.contains '\x00') then return .error .invalidInput else s.start line

/-- Runs the script with arguments; what it writes. -/
def run (arguments : List String) : HostM η String := do
  match ← s.launch (["//nologo", s.path] ++ arguments) with
  | .error kind => throw ((Fault.io kind).whileDoing "执行 cscript adsutil.vbs 失败")
  | .ok run =>
    if run.code = 0 then return Text.ofBytesLossy run.output
    else throw (.said (failure arguments run))

/-- The names of the filters. -/
def filterNames : HostM η (List String) :=
  return Listing.children (← s.run ["ENUM", filtersNode])

/-- The filter that a listing of its node shows. What the listing does not give is off, zero or
empty. -/
def entryOf (name listing : String) : StoredFilter where
  name := name
  enabled := (Listing.property? listing "FilterEnabled").any Listing.isTrue
  state := .ofNat (((Listing.property? listing "FilterState").bind fun value =>
    Text.boundedUnsigned? 0xFFFFFFFF value.toList).getD 0)
  path := (Listing.property? listing "FilterPath").getD ""
  description := (Listing.property? listing "FilterDescription").getD ""

/-- Reads the node of a filter. -/
def readFilter (name : String) : HostM η StoredFilter :=
  return entryOf name (← s.run ["ENUM", below filtersNode name])

/-- The properties of an entry with their values, in the order in which they are written. -/
def properties (e : StoredFilter) : List (String × String) :=
  [("FilterEnabled", if e.enabled then "TRUE" else "FALSE"),
    ("FilterState", e.state.toNat.repr),
    ("FilterPath", e.path),
    ("FilterDescription", e.description)]

/-- Writes a property. -/
def setProperty (property value : String) : HostM η Unit := do
  let _ ← s.run ["SET", property, value]

/-- Writes properties of a node, up to the first that cannot be written. -/
def setProperties (node : String) : List (String × String) → HostM η Unit
  | [] => pure ()
  | (name, value) :: rest => do
    tryCatch (s.setProperty (below node name) value) fun fault =>
      throw (fault.whileDoing ("写入 " ++ below node name ++ " 失败"))
    setProperties node rest

/-- Makes the node of an entry, unless there is one of its name in any letter case, and writes the
entry's properties. -/
def put (e : StoredFilter) : HostM η Unit := do
  let node := below filtersNode e.name
  if !(← s.filterNames).any (Text.equalIgnoringCase · e.name) then
    let _ ← s.run ["CREATE", node, "IIsFilter"]
  s.setProperties node (properties e)

/-- The directory of the default site's scripts. If it cannot be read there is none. -/
def scriptsDirectory : HostM η (Option String) :=
  tryCatch (do
    let listing ← s.run ["GET", below scriptsNode "Path"]
    return (Listing.property? listing "Path").filter (! ·.isEmpty)) fun _ => return none

/-- The property with the load order. -/
def loadOrderProperty : String := below filtersNode "FilterLoadOrder"

/-- The web server's store of filters. -/
def store : FilterStore η where
  filters := do (← s.filterNames).mapM s.readFilter
  put := s.put
  remove name := do
    let _ ← s.run ["DELETE", below filtersNode name]
  loadOrder :=
    return (Listing.property? (← s.run ["GET", loadOrderProperty]) "FilterLoadOrder").getD ""
  putLoadOrder order := s.setProperty loadOrderProperty order
  commit := pure ()
  scriptsDirectory := s.scriptsDirectory

end AdminScript

end ServerSetup
