import ServerSetup.Profile
import ServerSetup.OperationError
import ServerSetup.Path.Home

/-!
# The catalog

What a run of the tool has found: installations, each once by its canonical home; services, each
once by its name; and the current installation, which is selected once and for all. Entries keep the
order in which they were found.
-/

namespace ServerSetup

/-- An installation, with the ids of the servers that its services run. -/
structure Installation where
  home : HomePath
  servers : List String := []

/-- Where an entry stands after an insertion, and whether the insertion put it there. -/
inductive Insertion
  | new (index : Nat)
  | existing (index : Nat)
deriving DecidableEq

namespace Insertion

/-- Where the entry stands. -/
def index : Insertion → Nat
  | new i => i
  | existing i => i

/-- Whether the entry was not there before. -/
def isNew : Insertion → Bool
  | new _ => true
  | existing _ => false

end Insertion

/-- The installations and services that are known. -/
structure Catalog where
  installations : List Installation := []
  services : List ServiceProfile := []
  /-- The place of the current installation. -/
  current : Option Nat := none

namespace Catalog

/-- Nothing is known. -/
def empty : Catalog := {}

/-- Adds an element at the end of a list, unless one that counts as the same is there. -/
def insertInto {α : Type} (same : α → α → Bool) (xs : List α) (x : α) : Insertion × List α :=
  match xs.findIdx? (same · x) with
  | some i => (.existing i, xs)
  | none => (.new xs.length, xs ++ [x])

/-- Adds an installation, unless one with the same home is known. -/
def addInstallation (c : Catalog) (i : Installation) : Insertion × Catalog :=
  let (at_, is_) := insertInto (fun a b => a.home.same b.home) c.installations i
  (at_, { c with installations := is_ })

/-- Adds a service, unless one of the same name is known. -/
def addService (c : Catalog) (s : ServiceProfile) : Insertion × Catalog :=
  let (at_, ss) := insertInto (fun a b => a.name == b.name) c.services s
  (at_, { c with services := ss })

/-- The installation with a home; a new one without servers is added if there is none. -/
def ensureInstallation (c : Catalog) (home : HomePath) : Installation × Catalog :=
  let (at_, c) := c.addInstallation ⟨home, []⟩
  ((c.installations[at_.index]?).getD ⟨home, []⟩, c)

/-- The current installation. -/
def current? (c : Catalog) : Option Installation :=
  c.current.bind fun i => c.installations[i]?

/-- Selects the current installation, adding it if it is not known. A selection stands: a second one
fails and adds nothing. -/
def makeCurrent (c : Catalog) (i : Installation) : Except OperationError (Installation × Catalog) :=
  match c.current? with
  | some current => .error (.alreadySelected current.home.shown i.home.shown)
  | none =>
    let (at_, c) := c.addInstallation i
    .ok ((c.installations[at_.index]?).getD i, { c with current := some at_.index })

/-- Changes the first element with property `p`. -/
def modifyFirst {α : Type} (p : α → Bool) (f : α → α) : List α → List α
  | [] => []
  | x :: xs => if p x then f x :: xs else x :: modifyFirst p f xs

/-- Notes the servers of the installation with a home; whether it is known. -/
def noteServers (c : Catalog) (home : HomePath) (servers : List String) :
    Bool × Catalog :=
  let known (i : Installation) : Bool := i.home.same home
  (c.installations.any known,
    { c with
      installations := modifyFirst known (fun i => { i with servers := servers })
        c.installations })

/-- The service with a name. -/
def service? (c : Catalog) (name : String) : Option ServiceProfile :=
  c.services.find? (·.name == name)

/-- The services whose home is that of an installation. -/
def servicesOf (c : Catalog) (disk : Disk) (home : HomePath) : List ServiceProfile :=
  c.services.filter fun s => (disk.canonical s.home).same home

/-- Forgets the services. -/
def forgetServices (c : Catalog) : Catalog := { c with services := [] }

/-- Knows the given services and no others; of several with one name the first counts. -/
def setServices (c : Catalog) (ss : List ServiceProfile) : Catalog :=
  ss.foldl (fun c s => (c.addService s).2) c.forgetServices

end Catalog

end ServerSetup
