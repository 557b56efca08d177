import ServerSetup.Proofs.ServiceRecords
import ServerSetup.Proofs.Windows.Calls

/-!
# Service records in the registry

The record of a service is a value of its key. It is read by calls that find nothing where the key
or the value is missing, and written only where the key can be opened. On every documented system,
the calls that succeed keep the record, whatever others answer (`keeps_serviceRecords`): what is
read is what was last written, and reading does not change it. This is what the updates of a service
rely on.

The laws of the registry are stated for keys and values, and a record is one value of one key, so
the proof follows the handles: the key is opened, used and closed again, and no step in between
changes a value but the one that sets it. Nothing is said about the services of other names. Two
names that differ only in letter case have one record, so that writing the one may well change what
is read under the other.
-/

namespace ServerSetup.Windows

open View

variable {η : Type} {sys : System η} {v : View sys} {w w' : World η} {root : Root}
  {path name : String}

/-- A reading that does not fail shows the text of the key, and leaves the registry as it is. -/
theorem readString_eq_ok (laws : RegistryLaws v) {found : Option String}
    (h : readString sys.registry root path name w = (.ok found, w')) :
    found = v.textAt w.host (root.key path) name ∧ v.SameRegistry w w' := by
  obtain ⟨opened, w₁, hopen, hread⟩ := StateExcept.bind_eq_ok_iff.1 h
  have hopened := laws.openKey_leaves root path false w
  rcases ifFound_eq_ok (doing_eq_ok_iff.1 hopen) with ⟨key, rfl, hkey⟩ | ⟨rfl, hmissing⟩
  · rw [hkey] at hopened
    have htext : v.textAt w.host (root.key path) name = v.textAt w₁.host (v.path key) name := by
      rw [textAt, textAt, laws.content_congr (laws.openKey_path hkey), show v.content w₁.host = _
        from hopened]
    have hvalue := laws.value_leaves key name w₁
    rcases ifFound_eq_ok (doing_eq_ok_iff.1 hread) with ⟨text, rfl, hok⟩ | ⟨rfl, hnone⟩
    · rw [hok] at hvalue
      exact ⟨(laws.value_ok hok).symm.trans htext.symm, Eq.trans hvalue hopened⟩
    · rw [hnone] at hvalue
      exact ⟨(laws.value_missing hnone).symm.trans htext.symm, Eq.trans hvalue hopened⟩
  · rw [hmissing] at hopened
    cases hread
    refine ⟨?_, hopened⟩
    rw [textAt, laws.openKey_missing hmissing, Option.bind_none]

/-- **The calls of the registry that succeed keep the service records**, whatever others refuse. -/
theorem keeps_serviceRecords (laws : RegistryLaws v) (root : Root) (path : String) :
    (serviceRecords sys.registry root path).Keeps
      fun h service ↦ v.textAt h (root.key (path ++ "\\" ++ service)) "ImagePath" where
  shows h := (readString_eq_ok laws h).1
  leaves h := by rw [textAt, (readString_eq_ok laws h).2, ← textAt]
  stores {w w' service text} h := by
    obtain ⟨key, w₁, hopen, hset⟩ := StateExcept.bind_eq_ok_iff.1 h
    rw [textAt, ← laws.content_congr (laws.openKey_path (doing_eq_ok_iff.1 hopen)), ← textAt]
    exact laws.setValue_ok (doing_eq_ok_iff.1 hset)

end ServerSetup.Windows
