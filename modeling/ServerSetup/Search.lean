import ServerSetup.Settings
import ServerSetup.ServiceScan

/-!
# The search for installations

Installations are looked for in five places: below the fixed volumes, in directories that hold
several, in the record of the current installation, in the service records, and above the program
itself. What cannot be read is passed over, except the list of the services.
-/

namespace ServerSetup

/-- Whether `word` occurs in a text. -/
def Text.occurs (word : List Char) : List Char → Bool
  | [] => word.isEmpty
  | c :: rest => word.isPrefixOf (c :: rest) || occurs word rest

/-- The homes among the directories directly below a directory. -/
def HomeTest.homesBelow (test : HomeTest) (disk : Disk) (directory : String) : List HomePath :=
  match disk.list directory with
  | .error _ => []
  | .ok names =>
    names.filterMap fun name =>
      let path := Path.join directory name
      if disk.isDirectory path then test disk path else none

/-- The homes that an entry at the top of a volume gives: itself, if its name starts like that of an
installation and it is one; otherwise, if its name marks it as a container, what is below it. -/
def HomeTest.homesAt (test : HomeTest) (disk : Disk) (product : ProductSettings)
    (volume name : String) : List HomePath :=
  let path := Path.join volume name
  let lower := Text.lowercaseText name.toList
  let mark := Text.lowercaseText product.containerMark.toList
  let own := if (Text.lowercaseText product.directoryStart.toList).isPrefixOf lower then
      test disk path
    else none
  if ! disk.isDirectory path then []
  else
    match own with
    | some home => [home]
    | none => if !mark.isEmpty && Text.occurs mark lower then test.homesBelow disk path else []

/-- The homes on a volume. -/
def HomeTest.homesOn (test : HomeTest) (disk : Disk) (product : ProductSettings) (volume : String) :
    List HomePath :=
  match disk.list volume with
  | .error _ => []
  | .ok names => names.flatMap (test.homesAt disk product volume)

/-- What is needed to look for installations. -/
structure Search (η : Type) where
  product : ProductSettings
  test : HomeTest
  host : Host η
  /-- The order in which the finds on several volumes, which are searched side by side, reach the
  catalog. -/
  merge : List (List HomePath) → List HomePath := List.flatten

namespace Search

variable {η : Type}

/-- Adds installations to the catalog, in order. -/
def insertHomes (homes : List HomePath) : StateM (World η) Unit :=
  World.onCatalog fun c =>
    ((), homes.foldl (fun c home => (c.addInstallation ⟨home, []⟩).2) c)

/-- Selects an installation if none is selected yet. -/
def selectHome (home : HomePath) : StateM (World η) Unit :=
  World.onCatalog fun c =>
    match c.makeCurrent ⟨home, []⟩ with
    | .ok (_, c) => ((), c)
    | .error _ => ((), c)

/-- Adds what is on the fixed volumes. -/
def searchVolumes (s : Search η) : StateM (World η) Unit := do
  match ← s.host.volumes with
  | .error _ => pure ()
  | .ok volumes =>
    let disk := (← get).disk
    insertHomes (s.merge (volumes.map (s.test.homesOn disk s.product)))

/-- Selects the recorded current installation. -/
def takeRecordedHome (s : Search η) : StateM (World η) Unit := do
  match ← s.host.recordedHome with
  | .ok (some home) =>
    if Text.isBlankText home then pure () else selectHome ((← get).disk.canonical home)
  | _ => pure ()

/-- Adds the home that a service record gives, if its executable is the launcher. -/
def searchRecords (s : Search η) : List String → StateM (World η) Unit
  | [] => pure ()
  | name :: rest => do
    match ← s.host.records.record name with
    | .ok (some record) =>
      let disk := (← get).disk
      match (CommandLine.launcherArguments? record s.product.launcher).bind
          (homeOf? s.test disk) with
      | some home => insertHomes [disk.canonical home]
      | none => pure ()
    | _ => pure ()
    s.searchRecords rest

/-- Adds the homes of the services. -/
def searchServices (s : Search η) : SetupM η Unit := do
  let names ← SetupM.call (.accessDenied .serviceList) s.host.records.list
  s.searchRecords names

/-- Adds the nearest installation above the program, and selects it if none is selected. -/
def searchUpwards (s : Search η) : StateM (World η) Unit := do
  match s.host.ownLocation with
  | none => pure ()
  | some location =>
    let disk := (← get).disk
    match (Path.ancestors (disk.canonical location).shown).findSome? (s.test disk) with
    | some home =>
      insertHomes [home]
      selectHome home
    | none => pure ()

/-- Looks in all places; all installations that are known then. -/
def run (s : Search η) : SetupM η (List Installation) := do
  s.searchVolumes
  s.takeRecordedHome
  s.searchServices
  s.searchUpwards
  return (← get).catalog.installations

end Search

end ServerSetup
