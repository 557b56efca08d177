import Mathlib.Data.List.Infix
import Mathlib.Order.Defs.Unbundled
import ServerSetup.Windows.Registry

/-!
# What Windows is documented to do

The adapters are written against calls of Windows whose code is not at hand. This module says what
of their documented behaviour the results about the adapters rely on. A system comes with a `View`,
which says what can be seen of its states: what the registry holds under each path, and what the
service manager knows under each name. `Documented` collects the laws that the calls obey in this
view. Any system that obeys them will do; the machine in memory is one (`Machine.documented`).

## How the laws are stated

* **Names** of services and paths of keys are compared letter by letter after a fold of the letters
  (`View.fold`, as upper and lower case are folded on Windows). So "the service of this name" is the
  one whose name folds to the same letters (`View.SameName`), and a key lies below another one if
  its folded path goes on from the other's (`View.AtOrBelow`).
* **Refusals.** Every call may fail at any time and for any reason, except that of closing a handle.
  A law about a failure says only what is left as it was. Two answers mean more: `notFound` from the
  registry, and the error number of a missing service.
* **Deletion.** To delete a service is to mark it (`Entry.deleted`). It goes later, when it has
  stopped and no handle to it is open any more. So a service that is marked and has stopped is still
  held by a handle (`ServiceLaws.deleted_held`).
* **Time passes** during every call. A service may change its run state on its own, other programs
  may open and close it, and one that is marked for deletion may go. That much may come of any call,
  whatever it is about (`View.Drifts`). What other programs do to settings and keys is no doing of
  the calls, and is left out.
* **The two parts** of the system touch each other in two places: the settings of a service are kept
  under the key of its record, and a call about a service changes no key apart from this one. An
  event source is not a setting of a service, so its deletion changes none.
-/

namespace ServerSetup.Windows

variable {η : Type}

/-! ### What can be seen of a system -/

/-- What the service manager knows of a service, beside its name. -/
structure Entry (ς : Type) where
  settings : ς
  state : RunState
  /-- Whether it was marked for deletion. -/
  deleted : Bool
  /-- Whether a handle to it is open. -/
  held : Bool

/-- What can be seen of the states of a system. -/
structure View (sys : System η) where
  /-- What a letter counts as where names and paths are compared. -/
  fold : Char → Char
  /-- What a registry key can hold, apart from other keys. -/
  Content : Type
  /-- What the key with a full path holds; none if there is no such key. -/
  content : η → String → Option Content
  /-- The values of a key that are texts, by their names. -/
  text : Content → String → Option String
  /-- The full path of an open key. -/
  path : sys.registry.Key → String
  /-- What can be set of a service, among it the names, the executable and the account. -/
  Settings : Type
  /-- What is known of the service with a name; none if there is no such service. -/
  entry : η → String → Option (Entry Settings)
  /-- The name of an open service. -/
  serviceName : sys.services.Service → String
  /-- What was asked for when a service was made, as far as its settings show it. -/
  info : Settings → Option ServiceInfo

namespace View

variable {sys : System η} (v : View sys)

/-- The letters of a name or path as they are compared. -/
def folded (s : String) : List Char := s.toList.map v.fold

/-- Two names, or two paths, are the same one. -/
def SameName (a b : String) : Prop := v.folded a = v.folded b

/-- A key is another one, or lies below it. -/
def AtOrBelow (above key : String) : Prop := v.folded (above ++ "\\") <+: v.folded (key ++ "\\")

/-- Two keys of which neither lies below the other. -/
def Apart (key other : String) : Prop := ¬ v.AtOrBelow key other ∧ ¬ v.AtOrBelow other key

/-- The text that a key holds under a name. -/
def textAt (h : η) (key name : String) : Option String := (v.content h key).bind (v.text · name)

/-- The settings of a service that is there and is to stay. -/
def registered (h : η) (name : String) : Option v.Settings :=
  (v.entry h name).bind fun e ↦ if e.deleted then none else some e.settings

/-! ### What may come of a call -/

/-- The registry is the same. -/
def SameRegistry (w w' : World η) : Prop := v.content w'.host = v.content w.host

/-- The registry is the same apart from a key. -/
def SameBesides (above : String) (w w' : World η) : Prop :=
  ∀ key, v.Apart above key → v.content w'.host key = v.content w.host key

/-- The services are the same apart from what comes by itself: their run states and who has them
open, and that those marked for deletion go. -/
structure Drifts (w w' : World η) : Prop where
  registered : ∀ name, v.registered w'.host name = v.registered w.host name
  absent : ∀ name, v.entry w.host name = none → v.entry w'.host name = none

/-- The services are the same, apart from one and from what comes by itself. -/
structure DriftsBut (but : String) (w w' : World η) : Prop where
  registered : ∀ name, ¬ v.SameName name but → v.registered w'.host name = v.registered w.host name
  absent : ∀ name, ¬ v.SameName name but → v.entry w.host name = none → v.entry w'.host name = none

/-- A service was added as asked for, and no other changed. -/
structure Added (info : ServiceInfo) (w w' : World η) : Prop
    extends v.DriftsBut info.name w w' where
  new : v.registered w.host info.name = none
  asked : ∃ settings, v.registered w'.host info.name = some settings ∧ v.info settings = some info

/-- A service was marked for deletion or is gone, and no other changed. -/
structure Removed (name : String) (w w' : World η) : Prop extends v.DriftsBut name w w' where
  gone : v.registered w'.host name = none

/-- A service was described, and no other changed. -/
structure Described (name : String) (w w' : World η) : Prop extends v.DriftsBut name w w' where
  info : ∀ settings, v.registered w.host name = some settings →
    ∃ settings', v.registered w'.host name = some settings' ∧ v.info settings' = v.info settings

end View

/-- Whatever comes of an operation, the world after it is related to the world before it. -/
def Leads {α : Type} (R : World η → World η → Prop) (op : StateM (World η) α) : Prop :=
  ∀ w, R w (op w).2

/-! ### The laws -/

variable {sys : System η}

/-- The laws of the registry. -/
structure RegistryLaws (v : View sys) : Prop where
  /-- A path names one key, however its letters are written. -/
  content_congr : ∀ {h a b}, v.SameName a b → v.content h a = v.content h b
  /-- Where a key is not there, nothing is below it. -/
  content_below : ∀ {h above key}, v.AtOrBelow above key → v.content h above = none →
    v.content h key = none
  /-- Opening a key changes nothing. -/
  openKey_leaves : ∀ root path forWriting,
    Leads v.SameRegistry (sys.registry.openKey root path forWriting)
  /-- A key that was opened is the one that was asked for. -/
  openKey_path : ∀ {root path forWriting w key w'},
    sys.registry.openKey root path forWriting w = (.ok key, w') →
    v.SameName (v.path key) (root.key path)
  /-- A key is said to be missing if it is. -/
  openKey_missing : ∀ {root path forWriting w w'},
    sys.registry.openKey root path forWriting w = (.error .notFound, w') →
    v.content w.host (root.key path) = none
  /-- Reading a value changes nothing. -/
  value_leaves : ∀ key name, Leads v.SameRegistry (sys.registry.value key name)
  /-- What is read is the value of the key. -/
  value_ok : ∀ {key name w text w'}, sys.registry.value key name w = (.ok text, w') →
    v.textAt w.host (v.path key) name = some text
  /-- A value is said to be missing if it is. -/
  value_missing : ∀ {key name w w'}, sys.registry.value key name w = (.error .notFound, w') →
    v.textAt w.host (v.path key) name = none
  /-- A value that was set is the value of the key. -/
  setValue_ok : ∀ {key name text w w'}, sys.registry.setValue key name text w = (.ok (), w') →
    v.textAt w'.host (v.path key) name = some text
  /-- A key that was deleted is not there any more. The empty name stands for the key itself, which
  is only emptied. -/
  deleteTree_ok : ∀ {key name w w'}, name ≠ "" →
    sys.registry.deleteTree key name w = (.ok (), w') →
    v.content w'.host (v.path key ++ "\\" ++ name) = none
  /-- A key that is to be deleted is said to be missing if it is. -/
  deleteTree_missing : ∀ {key name w w'}, name ≠ "" →
    sys.registry.deleteTree key name w = (.error .notFound, w') →
    v.content w'.host (v.path key ++ "\\" ++ name) = none

/-- The laws of the service manager. -/
structure ServiceLaws (v : View sys) : Prop where
  /-- A name names one service, however its letters are written. -/
  entry_congr : ∀ {h a b}, v.SameName a b → v.entry h a = v.entry h b
  /-- A service that is marked for deletion and has stopped is still there only while a handle to it
  is open. -/
  deleted_held : ∀ {h name e}, v.entry h name = some e → e.deleted = true → e.state = .stopped →
    e.held = true
  connect : ∀ rights, Leads v.Drifts (sys.services.connect rights)
  closeManager : ∀ manager, Leads v.Drifts (sys.services.closeManager manager)
  closeService : ∀ service, Leads v.Drifts (sys.services.closeService service)
  openService : ∀ manager name rights,
    Leads v.Drifts (sys.services.openService manager name rights)
  /-- A service that was opened is the one that was asked for. -/
  openService_name : ∀ {manager name rights w service w'},
    sys.services.openService manager name rights w = (.ok service, w') →
    v.SameName (v.serviceName service) name
  /-- A service is said to be missing if it is. -/
  openService_missing : ∀ {manager name rights w e w'},
    sys.services.openService manager name rights w = (.error e, w') → e.isMissing = true →
    v.entry w'.host name = none
  queryStatus : ∀ service, Leads v.Drifts (sys.services.queryStatus service)
  start : ∀ service, Leads v.Drifts (sys.services.start service)
  stop : ∀ service, Leads v.Drifts (sys.services.stop service)
  /-- Where a service cannot be made, none is. -/
  createService_error : ∀ {manager info rights w e w'},
    sys.services.createService manager info rights w = (.error e, w') → v.Drifts w w'
  /-- A service is made only under a name that is free. -/
  createService_ok : ∀ {manager info rights w service w'},
    sys.services.createService manager info rights w = (.ok service, w') →
    v.SameName (v.serviceName service) info.name ∧ v.Added info w w'
  /-- Where a service cannot be described, it stays as it is. -/
  setDescription_error : ∀ {service text w e w'},
    sys.services.setDescription service text w = (.error e, w') → v.Drifts w w'
  /-- A description is all that a description changes. -/
  setDescription_ok : ∀ {service text w w'},
    sys.services.setDescription service text w = (.ok (), w') →
    v.Described (v.serviceName service) w w'
  /-- Where a service cannot be deleted, it stays. -/
  delete_error : ∀ {service w e w'}, sys.services.delete service w = (.error e, w') → v.Drifts w w'
  /-- A service that was deleted is marked, or gone. -/
  delete_ok : ∀ {service w w'}, sys.services.delete service w = (.ok (), w') →
    v.Removed (v.serviceName service) w w'

/-- Where the calls of one part of the system show in the other part. -/
structure PartsLaws (v : View sys) : Prop where
  connect : ∀ rights, Leads v.SameRegistry (sys.services.connect rights)
  closeManager : ∀ manager, Leads v.SameRegistry (sys.services.closeManager manager)
  openService : ∀ manager name rights,
    Leads (v.SameBesides (recordKey name)) (sys.services.openService manager name rights)
  createService : ∀ manager info rights,
    Leads (v.SameBesides (recordKey info.name)) (sys.services.createService manager info rights)
  closeService : ∀ service,
    Leads (v.SameBesides (recordKey (v.serviceName service))) (sys.services.closeService service)
  queryStatus : ∀ service,
    Leads (v.SameBesides (recordKey (v.serviceName service))) (sys.services.queryStatus service)
  stop : ∀ service,
    Leads (v.SameBesides (recordKey (v.serviceName service))) (sys.services.stop service)
  setDescription : ∀ service text, Leads (v.SameBesides (recordKey (v.serviceName service)))
    (sys.services.setDescription service text)
  delete : ∀ service,
    Leads (v.SameBesides (recordKey (v.serviceName service))) (sys.services.delete service)
  openKey : ∀ root path forWriting, Leads v.Drifts (sys.registry.openKey root path forWriting)
  /-- To delete an event source changes no setting of a service. -/
  deleteTree : ∀ key name, v.SameName (v.path key) eventSources →
    Leads v.Drifts (sys.registry.deleteTree key name)

/-- A system that does what Windows is documented to do. -/
structure Documented (v : View sys) : Prop where
  registry : RegistryLaws v
  services : ServiceLaws v
  parts : PartsLaws v

/-! ### Names and keys -/

namespace View

variable {v : View sys} {above key other name service : String}

theorem folded_append (a b : String) : v.folded (a ++ b) = v.folded a ++ v.folded b := by
  rw [folded, String.toList_append, List.map_append, folded, folded]

theorem length_folded (s : String) : (v.folded s).length = s.length := by
  rw [folded, List.length_map, String.length_toList]

/-- Text before a name does not matter to what the name is. -/
theorem SameName.append (h : v.SameName name service) (before : String) :
    v.SameName (before ++ name) (before ++ service) := by
  rw [SameName, folded_append, folded_append, show v.folded name = v.folded service from h]

/-- Services of the same name have their records under the same key. -/
theorem SameName.recordKey (h : v.SameName name service) :
    v.SameName (recordKey name) (recordKey service) := (h.append _).append _

/-- The key of an event source lies directly below that of all event sources. -/
theorem SameName.source (h : v.SameName name eventSources) (service : String) :
    v.SameName (name ++ "\\" ++ service) (eventSource service) := by
  have hpath : eventSource service = eventSources ++ "\\" ++ service := by
    simp [eventSource, eventSources, Root.key, String.append_assoc]
  rw [SameName, hpath, folded_append, folded_append, folded_append, folded_append,
    show v.folded name = v.folded eventSources from h]

/-- A key lies below another one however the letters of that are written. -/
theorem AtOrBelow.of_sameName (hname : v.SameName above other) (h : v.AtOrBelow above key) :
    v.AtOrBelow other key := by
  rw [AtOrBelow, folded_append] at h ⊢
  rwa [← show v.folded above = v.folded other from hname]

theorem AtOrBelow.refl (key : String) : v.AtOrBelow key key := List.prefix_refl _

theorem AtOrBelow.trans (h : v.AtOrBelow above key) (h' : v.AtOrBelow key other) :
    v.AtOrBelow above other := List.IsPrefix.trans h h'

/-- Two keys of which neither is below the other have nothing below them in common. -/
theorem atOrBelow_or_of_both (h : v.AtOrBelow key other) (h' : v.AtOrBelow above other) :
    v.AtOrBelow above key ∨ v.AtOrBelow key above := by
  rcases le_total (v.folded (above ++ "\\")).length (v.folded (key ++ "\\")).length with hle | hle
  · exact Or.inl (List.prefix_of_prefix_length_le h' h hle)
  · exact Or.inr (List.prefix_of_prefix_length_le h h' hle)

/-- What is apart from a key is apart from all below it. -/
theorem Apart.of_atOrBelow (h : v.Apart above key) (hbelow : v.AtOrBelow key other) :
    v.Apart above other := by
  refine ⟨fun habove ↦ ?_, fun habove ↦ h.2 (hbelow.trans habove)⟩
  rcases atOrBelow_or_of_both hbelow habove with hboth | hboth
  · exact h.1 hboth
  · exact h.2 hboth

end View

end ServerSetup.Windows
