import ServerSetup.Filter.Registration
import ServerSetup.Proofs.Filter.Store

/-!
# What the web filter asks of its store

To register the filter and to remove it is the same course of calls: the entries are read and
perhaps one of them is changed, the load order is read and perhaps changed, and if anything was
changed the changes are made permanent. The two differ in their plans only (`registerEntry_eq`,
`remove_eq`), so what a success means is said once, for any plan (`carryOut_eq_ok_iff`).

A `FilterPlan` tells what to change, given the entries and the load order that were read. What it
writes is a list of changes, and `carryOut` makes them one after the other up to the first that
fails. `Carried` describes a course that has come to its end: what was read, and the changes that
were made of it. From it every view of the host that follows the changes can be computed, be it the
journal, the load order or the entries (`Tracks.carried`).

The order of the calls matters and is part of the description: the load order is read only after the
entries were changed.
-/

namespace ServerSetup

/-- What is to be changed: a change for the entries that were read, and a new text for the load
order that was read, if they are not as they should be. -/
structure FilterPlan where
  entries : List StoredFilter → Option FilterChange
  loadOrder : String → Option String

namespace FilterPlan

variable (plan : FilterPlan) (entries : List StoredFilter) (order : String)

/-- The changes of the load order. -/
def orderWrites : List FilterChange := ((plan.loadOrder order).map .putLoadOrder).toList

/-- The changes of the entries and of the load order. -/
def writes : List FilterChange := (plan.entries entries).toList ++ plan.orderWrites order

/-- What makes the changes permanent, if there are any. -/
def closing : List FilterChange := if (plan.writes entries order).isEmpty then [] else [.commit]

/-- The change of the entries leaves the load order alone. -/
def LeavesOrder : Prop := ∀ entries, ∀ change ∈ plan.entries entries, change.orderAfter = id

variable {plan entries order}

theorem closing_of_writes_eq_nil (h : plan.writes entries order = []) :
    plan.closing entries order = [] := by
  rw [closing, h]
  rfl

theorem closing_of_writes_ne_nil (h : plan.writes entries order ≠ []) :
    plan.closing entries order = [.commit] := by
  rw [closing, if_neg (by simpa using h)]

theorem LeavesOrder.foldl_entries (h : plan.LeavesOrder) (entries : List StoredFilter)
    (text : String) : (plan.entries entries).toList.foldl
      (fun text change ↦ change.orderAfter text) text = text := by
  rcases hchange : plan.entries entries with - | change
  · rfl
  · exact congrFun (h entries change hchange) text

/-- The load order that the changes of a plan leave. -/
theorem foldl_orderAfter (h : plan.LeavesOrder) :
    (plan.writes entries order ++ plan.closing entries order).foldl
      (fun text change ↦ change.orderAfter text) order = (plan.loadOrder order).getD order := by
  have hclosing (text : String) : (plan.closing entries order).foldl
      (fun text change ↦ change.orderAfter text) text = text := by
    rw [closing]
    split <;> rfl
  rw [List.foldl_append, hclosing, writes, List.foldl_append, h.foldl_entries, orderWrites]
  rcases plan.loadOrder order with - | text <;> rfl

/-- The entries that the changes of a plan leave. -/
theorem foldl_entriesAfter (found : Multiset StoredFilter) :
    (plan.writes entries order ++ plan.closing entries order).foldl
      (fun found change ↦ change.entriesAfter found) found =
      (plan.entries entries).elim found (·.entriesAfter found) := by
  have hclosing (found : Multiset StoredFilter) : (plan.closing entries order).foldl
      (fun found change ↦ change.entriesAfter found) found = found := by
    rw [closing]
    split <;> rfl
  have horder (found : Multiset StoredFilter) : (plan.orderWrites order).foldl
      (fun found change ↦ change.entriesAfter found) found = found := by
    rw [orderWrites]
    rcases plan.loadOrder order with - | text <;> rfl
  rw [List.foldl_append, hclosing, writes, List.foldl_append, horder]
  rcases plan.entries entries with - | change <;> rfl

end FilterPlan

variable {η β : Type}

namespace FilterStore

/-- Reads the store, makes the changes of a plan and makes them permanent; whether there was
anything to change. -/
def carryOut (store : FilterStore η) (plan : FilterPlan) : HostM η Bool := do
  let entries ← store.filters
  store.makeAll (plan.entries entries).toList
  let order ← store.loadOrder
  store.makeAll (plan.orderWrites order ++ plan.closing entries order)
  return ! (plan.writes entries order).isEmpty

/-- The store was read and the changes of a plan were made and made permanent. -/
def Carried (store : FilterStore η) (plan : FilterPlan) (entries : List StoredFilter)
    (order : String) (w w' : World η) : Prop :=
  ∃ w₁ w₂ w₃, store.filters w = (.ok entries, w₁) ∧
    store.makeAll (plan.entries entries).toList w₁ = (.ok (), w₂) ∧
    store.loadOrder w₂ = (.ok order, w₃) ∧
    store.makeAll (plan.orderWrites order ++ plan.closing entries order) w₃ = (.ok (), w')

variable {store : FilterStore η} {plan : FilterPlan} {w w' : World η} {changed : Bool}
  {entries : List StoredFilter} {order : String} {view : η → β}
  {acts : FilterChange → β → β} {calm : η → Prop}

/-- The changes of a plan are made as they are found out. -/
theorem carryOut_eq (store : FilterStore η) (plan : FilterPlan) : store.carryOut plan = do
    let entry := plan.entries (← store.filters)
    if let some change := entry then store.make change
    let order := plan.loadOrder (← store.loadOrder)
    if let some order := order then store.putLoadOrder order
    let changed := entry.isSome || order.isSome
    if changed then store.commit
    return changed := by
  refine bind_congr fun entries ↦ ?_
  simp only [FilterPlan.closing, FilterPlan.writes, FilterPlan.orderWrites]
  obtain hentry | ⟨change, hentry⟩ := Option.eq_none_or_eq_some (plan.entries entries)
  · simp only [hentry, Option.toList_none, makeAll, pure_bind]
    refine bind_congr fun order ↦ ?_
    obtain horder | ⟨text, horder⟩ := Option.eq_none_or_eq_some (plan.loadOrder order)
    · simp [horder, makeAll]
    · simp [horder, makeAll, make]
  · simp only [hentry, Option.toList_some, makeAll_singleton]
    refine bind_congr fun _ ↦ bind_congr fun order ↦ ?_
    obtain horder | ⟨text, horder⟩ := Option.eq_none_or_eq_some (plan.loadOrder order)
    · simp [horder, makeAll, make]
    · simp [horder, makeAll, make]

/-- **A plan succeeds exactly if both readings and all changes do.** -/
theorem carryOut_eq_ok_iff : store.carryOut plan w = (.ok changed, w') ↔
    ∃ entries order, store.Carried plan entries order w w' ∧
      changed = ! (plan.writes entries order).isEmpty := by
  simp only [carryOut, StateExcept.bind_eq_ok_iff]
  constructor
  · rintro ⟨entries, w₁, hfilters, ⟨⟩, w₂, hentry, order, w₃, horder, ⟨⟩, w₄, hrest, hpure⟩
    cases hpure
    exact ⟨entries, order, ⟨w₁, w₂, w₃, hfilters, hentry, horder, hrest⟩, rfl⟩
  · rintro ⟨entries, order, ⟨w₁, w₂, w₃, hfilters, hentry, horder, hrest⟩, rfl⟩
    exact ⟨entries, w₁, hfilters, (), w₂, hentry, order, w₃, horder, (), w', hrest, rfl⟩

/-- **A plan that was carried out acts on a view as its changes do,** one after the other. -/
theorem Tracks.carried (h : store.Tracks view acts) (hw : store.Carried plan entries order w w') :
    view w'.host = (plan.writes entries order ++ plan.closing entries order).foldl
      (fun v change ↦ acts change v) (view w.host) := by
  obtain ⟨w₁, w₂, w₃, hfilters, hentry, horder, hrest⟩ := hw
  rw [FilterPlan.writes, List.append_assoc, List.foldl_append, h.makeAll hrest,
    h.loadOrder horder, h.makeAll hentry, h.filters hfilters]

/-- A plan that was carried out has left the disk alone. -/
theorem LeavesDisk.carried (h : store.LeavesDisk) (hw : store.Carried plan entries order w w') :
    w'.disk = w.disk := by
  obtain ⟨w₁, w₂, w₃, hfilters, hentry, horder, hrest⟩ := hw
  rw [h.makeAll hrest, h.loadOrder horder, h.makeAll hentry, h.filters hfilters]

/-- The changes of a plan are all that comes behind a journal. -/
theorem Journaled.carried {journal : η → List FilterChange} (h : store.Journaled journal)
    (hw : store.Carried plan entries order w w') : journal w'.host =
      journal w.host ++ (plan.writes entries order ++ plan.closing entries order) := by
  rw [Tracks.carried h hw, List.foldl_append_eq_append, ← List.flatMap_def,
    List.flatMap_singleton']

/-- **What a plan does to the load order:** the text that is read is the one before it, and the text
after it is the plan's. -/
theorem KeepsOrder.carried {text : η → String} (h : store.KeepsOrder text)
    (hplan : plan.LeavesOrder) (hw : store.Carried plan entries order w w') :
    order = text w.host ∧ text w'.host = (plan.loadOrder order).getD order := by
  have htext := h.toTracks.carried hw
  obtain ⟨w₁, w₂, w₃, hfilters, hentry, horder, -⟩ := hw
  -- The load order is read behind the change of the entries, which leaves it alone.
  have hread := h.read horder
  rw [h.toTracks.makeAll hentry, h.toTracks.filters hfilters, hplan.foldl_entries] at hread
  rw [htext, ← hread, FilterPlan.foldl_orderAfter hplan]
  exact ⟨rfl, rfl⟩

/-- **What a plan does to the entries:** the list that is read is the one before it, and what
becomes of it is the plan's change. -/
theorem KeepsEntries.carried {found : η → Multiset StoredFilter} (h : store.KeepsEntries found)
    (hw : store.Carried plan entries order w w') : entries = found w.host ∧ found w'.host =
      (plan.entries entries).elim (found w.host) (·.entriesAfter (found w.host)) := by
  have hfound := h.toTracks.carried hw
  obtain ⟨w₁, w₂, w₃, hfilters, -⟩ := hw
  exact ⟨h.read hfilters, hfound.trans (FilterPlan.foldl_entriesAfter _)⟩

/-- **In a calm state a plan is carried out,** and nothing but the host is changed. -/
theorem Dependable.carried (h : store.Dependable calm) (plan : FilterPlan) (hw : calm w.host) :
    ∃ entries order h', store.Carried plan entries order w { w with host := h' } ∧ calm h' := by
  obtain ⟨entries, h₁, hfilters, hcalm₁⟩ := h.filters hw
  obtain ⟨h₂, hentry, hcalm₂⟩ := h.makeAll (w := { w with host := h₁ })
    (plan.entries entries).toList hcalm₁
  obtain ⟨order, h₃, horder, hcalm₃⟩ := h.loadOrder (w := { w with host := h₂ }) hcalm₂
  obtain ⟨h', hrest, hcalm⟩ := h.makeAll (w := { w with host := h₃ })
    (plan.orderWrites order ++ plan.closing entries order) hcalm₃
  exact ⟨entries, order, h', ⟨_, _, _, hfilters, hentry, horder, hrest⟩, hcalm⟩

end FilterStore

namespace FilterSetup

variable (f : FilterSetup η)

/-- The filter is to have its entry and a place in the load order. -/
def registration (scripts : String) : FilterPlan where
  entries filters :=
    if f.entry? filters != some (f.wanted scripts) then some (.put (f.wanted scripts)) else none
  loadOrder order := LoadOrder.add? order f.settings.name

/-- The filter is to have neither. -/
def removal : FilterPlan where
  entries filters := (f.entry? filters).map (.remove ·.name)
  loadOrder order := LoadOrder.remove? order f.settings.name

/-- A registration carries out its plan. -/
theorem registerEntry_eq (scripts : String) :
    f.registerEntry scripts = f.store.carryOut (f.registration scripts) := by
  rw [FilterStore.carryOut_eq]
  refine bind_congr fun filters ↦ ?_
  rcases hdiffers : f.entry? filters != some (f.wanted scripts) with - | -
  · simp only [registration, hdiffers, Bool.false_eq_true, if_false]
    rfl
  · simp only [registration, hdiffers, if_true]
    rfl

/-- A removal carries out its plan. -/
theorem remove_eq : f.remove = f.store.carryOut f.removal := by
  rw [FilterStore.carryOut_eq]
  refine bind_congr fun filters ↦ ?_
  rcases hentry : f.entry? filters with - | entry
  · simp only [removal, hentry, Option.map_none]
    rfl
  · simp only [removal, hentry, Option.map_some]
    rfl

end FilterSetup

end ServerSetup
