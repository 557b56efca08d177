import Mathlib.Data.Multiset.Filter
import ServerSetup.Host
import ServerSetup.Proofs.Operation
import ServerSetup.Text.AsciiCase

/-!
# Stores of filters

What the tool relies on when it changes the web server's store of filters. A law is stated for any
host, through a view of its states: what was changed so far, the load order, the entries. It says
what a view shows after a call that has succeeded; what a call that fails leaves behind is open.

The changes a store can make are data (`FilterChange`), so each view comes with one function that
tells what a change does to it, and the laws for all kinds of changes are one law (`Tracks`). A
store may follow some views and not others: a statement about commits needs the journal only, one
about the load order the load order only. `Dependable` is the assumption that in a calm state no
call fails; it is used only where a statement promises success. A store with all of these is
`Faithful`.

Names of filters are compared without regard to letter case, by their small letters (`key`). Entries
are a multiset, as their order is not promised, and putting an entry replaces all entries of its
name.
-/

namespace ServerSetup

/-- A change of a store of filters, or the call that makes the changes before it permanent. -/
inductive FilterChange
  | put (entry : StoredFilter)
  | remove (name : String)
  | putLoadOrder (order : String)
  | commit

namespace FilterChange

/-- The load order after a change. -/
def orderAfter : FilterChange → String → String
  | putLoadOrder order, _ => order
  | _, order => order

/-- The name of an entry without regard to letter case. -/
def key (entry : StoredFilter) : List Char := entry.name.toList.map Char.toLower

/-- The entries of other names, whatever the letter case. -/
def others (name : String) (entries : Multiset StoredFilter) : Multiset StoredFilter :=
  entries.filter fun e ↦ ! Text.equalIgnoringCase e.name name

/-- The entries after a change: an entry that is put is the only one of its name, and removing a
name leaves no entry of it. -/
def entriesAfter : FilterChange → Multiset StoredFilter → Multiset StoredFilter
  | put entry, entries => entry ::ₘ others entry.name entries
  | remove name, entries => others name entries
  | _, entries => entries

/-! ### The entries of other names -/

variable {entry : StoredFilter} {name other : String} {entries : Multiset StoredFilter}

/-- Names are the same without regard to letter case if their small letters are. -/
theorem equalIgnoringCase_iff : Text.equalIgnoringCase entry.name name = true ↔
    key entry = name.toList.map Char.toLower := Text.sameIgnoringCase_iff

/-- Names that differ in letter case only have the same others. -/
theorem others_congr (h : Text.equalIgnoringCase name other = true)
    (entries : Multiset StoredFilter) :
    others name entries = others other entries := by
  have hcase := Text.sameIgnoringCase_iff.1 h
  refine Multiset.filter_congr fun e _ ↦ ?_
  simp only [Text.equalIgnoringCase, Text.sameIgnoringCase, hcase]

theorem others_others (name : String) (entries : Multiset StoredFilter) :
    others name (others name entries) = others name entries := by
  rw [others, others, Multiset.filter_filter]
  simp

theorem others_cons (entry : StoredFilter) (entries : Multiset StoredFilter) :
    others entry.name (entry ::ₘ entries) = others entry.name entries := by
  refine Multiset.filter_cons_of_neg entries ?_
  simp [Text.equalIgnoringCase, Text.sameIgnoringCase]

theorem others_eq_self (h : ∀ e ∈ entries, Text.equalIgnoringCase e.name name = false) :
    others name entries = entries :=
  Multiset.filter_eq_self.2 fun e he ↦ by simp [h e he]

/-- An entry whose name is not there twice, together with the others. -/
theorem cons_others (hunique : (entries.map key).Nodup) (h : entry ∈ entries) :
    entry ::ₘ others entry.name entries = entries := by
  obtain ⟨rest, rfl⟩ := Multiset.exists_cons_of_mem h
  rw [others_cons, others_eq_self]
  rw [Multiset.map_cons, Multiset.nodup_cons] at hunique
  intro e he
  rw [← Bool.not_eq_true, equalIgnoringCase_iff]
  intro heq
  exact hunique.1 ((show key e = key entry from heq) ▸ Multiset.mem_map_of_mem key he)

theorem nodup_others (hunique : (entries.map key).Nodup) : ((others name entries).map key).Nodup :=
  Multiset.nodup_of_le (Multiset.map_le_map (Multiset.filter_le _ _)) hunique

/-- An entry put in place of those of its name makes no name stand twice. -/
theorem nodup_cons_others (hunique : (entries.map key).Nodup) (entry : StoredFilter) :
    ((entry ::ₘ others entry.name entries).map key).Nodup := by
  rw [Multiset.map_cons, Multiset.nodup_cons]
  refine ⟨fun hmem ↦ ?_, nodup_others hunique⟩
  obtain ⟨e, he, heq⟩ := Multiset.mem_map.1 hmem
  have hother := (Multiset.mem_filter.1 he).2
  rw [equalIgnoringCase_iff.2 heq] at hother
  cases hother

end FilterChange

namespace FilterStore

variable {η β : Type}

/-- Makes a change. -/
def make (store : FilterStore η) : FilterChange → HostM η Unit
  | .put entry => store.put entry
  | .remove name => store.remove name
  | .putLoadOrder order => store.putLoadOrder order
  | .commit => store.commit

/-- Makes changes one after the other, up to the first that fails. -/
def makeAll (store : FilterStore η) : List FilterChange → HostM η Unit
  | [] => pure ()
  | change :: changes => do
    store.make change
    makeAll store changes

/-- Calls that succeed act on a view of the host: reading leaves it as it is, and `acts` tells what
becomes of it by a change. -/
structure Tracks (store : FilterStore η) (view : η → β) (acts : FilterChange → β → β) : Prop where
  filters : ∀ {w entries w'}, store.filters w = (.ok entries, w') → view w'.host = view w.host
  loadOrder : ∀ {w order w'}, store.loadOrder w = (.ok order, w') → view w'.host = view w.host
  make : ∀ {change w w'}, store.make change w = (.ok (), w') →
    view w'.host = acts change (view w.host)

/-- The host keeps a journal of the changes that were made. -/
def Journaled (store : FilterStore η) (journal : η → List FilterChange) : Prop :=
  store.Tracks journal fun change changes ↦ changes ++ [change]

/-- The store keeps the load order, and reading it gives what it is. -/
structure KeepsOrder (store : FilterStore η) (order : η → String) : Prop
    extends store.Tracks order FilterChange.orderAfter where
  read : ∀ {w text w'}, store.loadOrder w = (.ok text, w') → text = order w.host

/-- The store keeps the entries, and reading them gives what they are, in some order. -/
structure KeepsEntries (store : FilterStore η) (entries : η → Multiset StoredFilter) : Prop
    extends store.Tracks entries FilterChange.entriesAfter where
  read : ∀ {w found w'}, store.filters w = (.ok found, w') → found = entries w.host

/-- In a calm state no call fails; it leaves a calm state, and changes nothing but the host. -/
structure Dependable (store : FilterStore η) (calm : η → Prop) : Prop where
  filters : ∀ {w}, calm w.host →
    ∃ entries h, store.filters w = (.ok entries, { w with host := h }) ∧ calm h
  loadOrder : ∀ {w}, calm w.host →
    ∃ order h, store.loadOrder w = (.ok order, { w with host := h }) ∧ calm h
  make : ∀ change {w}, calm w.host →
    ∃ h, store.make change w = (.ok (), { w with host := h }) ∧ calm h

/-- Calls that succeed leave the disk alone. -/
structure LeavesDisk (store : FilterStore η) : Prop where
  filters : ∀ {w entries w'}, store.filters w = (.ok entries, w') → w'.disk = w.disk
  loadOrder : ∀ {w order w'}, store.loadOrder w = (.ok order, w') → w'.disk = w.disk
  make : ∀ {change w w'}, store.make change w = (.ok (), w') → w'.disk = w.disk

/-- What can be seen of the states of a host with a store of filters. -/
structure View (η : Type) where
  /-- No call of the store fails in this state. -/
  calm : η → Prop
  journal : η → List FilterChange
  order : η → String
  entries : η → Multiset StoredFilter

/-- A store that keeps what it is given, and keeps a journal of it. -/
structure Faithful (store : FilterStore η) (v : View η) : Prop where
  dependable : store.Dependable v.calm
  journaled : store.Journaled v.journal
  keepsOrder : store.KeepsOrder v.order
  keepsEntries : store.KeepsEntries v.entries

variable {store : FilterStore η} {view : η → β} {acts : FilterChange → β → β} {calm : η → Prop}
  {w w' : World η} {change : FilterChange} {changes : List FilterChange}

theorem makeAll_nil_iff : store.makeAll [] w = (.ok (), w') ↔ w = w' := by
  constructor
  · intro h
    cases h
    rfl
  · rintro rfl
    rfl

theorem makeAll_singleton (store : FilterStore η) (change : FilterChange) :
    store.makeAll [change] = store.make change := bind_pure _

theorem makeAll_cons_iff : store.makeAll (change :: changes) w = (.ok (), w') ↔
    ∃ w₁, store.make change w = (.ok (), w₁) ∧ store.makeAll changes w₁ = (.ok (), w') := by
  rw [makeAll, StateExcept.bind_eq_ok_iff]
  exact ⟨fun ⟨_, w₁, h⟩ ↦ ⟨w₁, h⟩, fun ⟨w₁, h⟩ ↦ ⟨(), w₁, h⟩⟩

/-- Changes that are made act on a view one after the other. -/
theorem Tracks.makeAll (h : store.Tracks view acts)
    (hmake : store.makeAll changes w = (.ok (), w')) :
    view w'.host = changes.foldl (fun v change ↦ acts change v) (view w.host) := by
  induction changes generalizing w with
  | nil =>
    rw [makeAll_nil_iff.1 hmake]
    rfl
  | cons change changes ih =>
    obtain ⟨w₁, hfirst, hrest⟩ := makeAll_cons_iff.1 hmake
    rw [ih hrest, h.make hfirst, List.foldl_cons]

/-- Changes of the store leave the disk alone. -/
theorem LeavesDisk.makeAll (h : store.LeavesDisk)
    (hmake : store.makeAll changes w = (.ok (), w')) : w'.disk = w.disk := by
  induction changes generalizing w with
  | nil => rw [makeAll_nil_iff.1 hmake]
  | cons change changes ih =>
    obtain ⟨w₁, hfirst, hrest⟩ := makeAll_cons_iff.1 hmake
    rw [ih hrest, h.make hfirst]

/-- In a calm state all changes are made, and the state stays calm. -/
theorem Dependable.makeAll (h : store.Dependable calm) (changes : List FilterChange)
    (hw : calm w.host) :
    ∃ h', store.makeAll changes w = (.ok (), { w with host := h' }) ∧ calm h' := by
  induction changes generalizing w with
  | nil => exact ⟨w.host, rfl, hw⟩
  | cons change changes ih =>
    obtain ⟨h₁, hfirst, hcalm₁⟩ := h.make change hw
    obtain ⟨h', hrest, hcalm⟩ := ih (w := { w with host := h₁ }) hcalm₁
    exact ⟨h', makeAll_cons_iff.2 ⟨_, hfirst, hrest⟩, hcalm⟩

end FilterStore

end ServerSetup
