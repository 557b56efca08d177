import ServerSetup.Rehearsal
import ServerSetup.ServiceManager
import ServerSetup.Proofs.Operation
import ServerSetup.Proofs.ServiceRecords

/-!
# A rehearsal keeps service records faithfully

The host in memory, as long as it is not told to fail, keeps the records of its services as a
registry would: the assignments of `Rehearsal.assign` are read back, and other services stay as they
were.

Statements about the tool are proved for every host that behaves as documented, and a host in memory
shows that there are such hosts and what the statements say of them. For the records of services
there are two laws, and the machine has both: in calm states its calls succeed and are faithful
(`faithful_records`), and in any state the calls that succeed keep what was written
(`keeps_records`).

Calls of the machine act on the host and on nothing else in the world (`ActsOnHost`), except for the
interruptions that one may set up. This is shown of every call by its steps, and is what a session
on the machine needs in order to know that the catalog is changed by its own operations only.
-/

namespace ServerSetup.Rehearsal

/-! ### Assignments -/

section assign

variable {α : Type} {key : String} {value : α} {xs : List (String × α)}

/-- A choice among the keys leaves the values of those that are chosen. -/
theorem lookup_filter_of_pos {p : String → Bool} {other : String} (h : p other = true) :
    (xs.filter fun x ↦ p x.1).lookup other = xs.lookup other := by
  induction xs with
  | nil => rfl
  | cons x xs ih =>
    rw [List.filter_cons, List.lookup_cons]
    by_cases hx : other = x.1
    · rw [← hx, if_pos h, List.lookup_cons, ← hx, beq_self_eq_true]
    · have hskip : (other == x.1) = false := by simpa using hx
      rw [hskip]
      split
      · rw [List.lookup_cons, hskip]
        exact ih
      · exact ih

/-- To forget a key leaves the other keys alone. -/
theorem lookup_forget_of_ne {other : String} (h : other ≠ key) :
    (forget key xs).lookup other = xs.lookup other :=
  lookup_filter_of_pos (p := (· != key)) (bne_iff_ne.2 h)

/-- A key that was forgotten has no value. -/
theorem lookup_forget_self : (forget key xs).lookup key = none := by
  rw [List.lookup_eq_none_iff]
  intro x hx
  have hne : x.1 ≠ key := by
    simpa using (List.mem_filter.1 hx).2
  exact bne_iff_ne.2 hne.symm

/-- An assigned value is read back. -/
theorem lookup_assign_self : (assign key value xs).lookup key = some value := by
  show (forget key xs ++ [(key, value)]).lookup key = _
  rw [List.lookup_append, lookup_forget_self, Option.none_or, List.lookup_cons_self]

/-- An assignment leaves the other keys alone. -/
theorem lookup_assign_of_ne {other : String} (h : other ≠ key) :
    (assign key value xs).lookup other = xs.lookup other := by
  show (forget key xs ++ [(key, value)]).lookup other = _
  have hlast : [(key, value)].lookup other = none := by
    simpa using h
  rw [List.lookup_append, lookup_forget_of_ne h, hlast, Option.or_none]

/-- Keys that were different are so after an assignment. -/
theorem nodup_assign (h : (xs.map Prod.fst).Nodup) :
    ((assign key value xs).map Prod.fst).Nodup := by
  show ((forget key xs ++ [(key, value)]).map Prod.fst).Nodup
  rw [List.map_append, List.nodup_append]
  refine ⟨h.sublist (List.filter_sublist.map _), by simp, ?_⟩
  intro name hname last hlast
  obtain ⟨x, hx, rfl⟩ := List.mem_map.1 hname
  rw [List.mem_singleton.1 hlast]
  simpa using (List.mem_filter.1 hx).2

theorem mem_of_lookup (h : xs.lookup key = some value) : key ∈ xs.map Prod.fst := by
  obtain ⟨front, behind, rfl, -⟩ := List.lookup_eq_some_iff.1 h
  simp

end assign

/-! ### Records -/

variable {ν : Type}

/-- What can be seen of a machine that is not told to fail and has each service once. -/
def view : ServiceRecords.View (Machine ν) where
  calm h := h.failing = [] ∧ (h.services.map Prod.fst).Nodup
  names h := (h.services.map Prod.fst).mergeSort (· ≤ ·)
  record h service := (h.services.lookup service).join

/-- **A machine that is not told to fail keeps what is written to its service records.** -/
theorem faithful_records (ownLocation : Option String)
    (interrupt : StateM (World (Machine ν)) Unit) :
    (host ownLocation interrupt).records.Faithful view := by
  have hcalm {w : World (Machine ν)} (h : w.host.failing = []) :
      w = { w with host := { w.host with failing := [] } } := by
    rw [← h]
  -- The machine lists its services in the order of their names, which loses none.
  refine ⟨fun h hh ↦ (List.mergeSort_perm _ _).nodup_iff.2 hh.2, ?_, ?_, ?_, ?_⟩
  · intro h service line _ hline
    have hlookup : h.services.lookup service = some (some line) := Option.join_eq_some_iff.1 hline
    exact (List.mergeSort_perm _ _).mem_iff.2 (mem_of_lookup hlookup)
  · intro w h
    refine ⟨w.host, ?_, h, rfl, rfl⟩
    rw [hcalm h.1]
    rfl
  · intro w service h
    refine ⟨w.host, ?_, h, rfl, rfl⟩
    rw [hcalm h.1]
    rfl
  · intro w service line h
    refine ⟨{ w.host with
      actions := w.host.actions ++ [.setRecord service line]
      services := assign service (some line) w.host.services }, ?_, ⟨h.1, nodup_assign h.2⟩, ?_, ?_⟩
    · rw [hcalm h.1]
      rfl
    · show ((assign service (some line) w.host.services).lookup service).join = _
      rw [lookup_assign_self]
      rfl
    · intro other hother
      show ((assign service (some line) w.host.services).lookup other).join = _
      rw [lookup_assign_of_ne hother]
      rfl

/-- What happens at a point. -/
theorem point_eq {w : World (Machine ν)} (name : String) : point name w =
    if name ∈ w.host.failing then (.error (.said ("fake failure: " ++ name)), w)
    else (.ok (), w) := by
  show (ite (w.host.failing.contains name = true) _ _ : HostM (Machine ν) Unit) w = _
  simp only [List.contains_iff_mem]
  split <;> rfl

/-- A point that is passed changes nothing. -/
theorem eq_of_point_eq_ok {name : String} {w w' : World (Machine ν)}
    (h : point name w = (.ok (), w')) : w' = w := by
  rw [point_eq] at h
  split at h
  · cases h
  · exact (Prod.mk.inj h).2.symm

/-- **The calls of a machine that succeed keep its records**, at whatever points others fail. -/
theorem keeps_records (ownLocation : Option String)
    (interrupt : StateM (World (Machine ν)) Unit) :
    (host ownLocation interrupt).records.Keeps
      fun h service ↦ (h.services.lookup service).join := by
  have hread {w w' : World (Machine ν)} {service : String} {found : Option String}
      (h : (host ownLocation interrupt).records.record service w = (.ok found, w')) :
      found = (w.host.services.lookup service).join ∧ w' = w := by
    obtain ⟨_, w₁, hany, hrest⟩ := StateExcept.bind_eq_ok_iff.1 h
    obtain ⟨_, w₂, hown, hlook⟩ := StateExcept.bind_eq_ok_iff.1 hrest
    rw [eq_of_point_eq_ok hown, eq_of_point_eq_ok hany] at hlook
    cases hlook
    exact ⟨rfl, rfl⟩
  refine ⟨fun h ↦ (hread h).1, fun h ↦ by rw [(hread h).2], fun {w w' service text} h ↦ ?_⟩
  obtain ⟨_, w₁, -, hrest⟩ := StateExcept.bind_eq_ok_iff.1 h
  obtain ⟨_, w₂, -, hchange⟩ := StateExcept.bind_eq_ok_iff.1 hrest
  cases hchange
  show ((assign service (some text) w₂.host.services).lookup service).join = _
  rw [lookup_assign_self]
  rfl

/-! ### Calls that act on the host alone -/

section ActsOnHost

variable {α β : Type}

/-- A call changes nothing but the host. -/
def ActsOnHost (op : HostM (Machine ν) α) : Prop := ∀ w, ∃ h, (op w).2 = { w with host := h }

namespace ActsOnHost

theorem pure (a : α) : ActsOnHost (Pure.pure a : HostM (Machine ν) α) := fun w ↦ ⟨w.host, rfl⟩

/-- A sequence of calls that act on the host alone acts on the host alone. -/
theorem bind {op : HostM (Machine ν) α} {f : α → HostM (Machine ν) β} (hop : ActsOnHost op)
    (hf : ∀ a, ActsOnHost (f a)) : ActsOnHost (op >>= f) := by
  intro w
  obtain ⟨h, hw⟩ := hop w
  rw [StateExcept.bind_eq]
  rcases hresult : op w with ⟨fault | a, w₁⟩
  · rw [hresult] at hw
    exact ⟨h, hw⟩
  · rw [hresult] at hw
    obtain ⟨h', hw'⟩ := hf a w₁
    exact ⟨h', hw'.trans (by rw [show w₁ = _ from hw])⟩

theorem machine : ActsOnHost (machine : HostM (Machine ν) (Machine ν)) := fun w ↦ ⟨w.host, rfl⟩

theorem change (f : Machine ν → Machine ν) : ActsOnHost (change f) := fun w ↦ ⟨f w.host, rfl⟩

theorem note (action : Action) : ActsOnHost (note action : HostM (Machine ν) Unit) := change _

theorem point (name : String) : ActsOnHost (point name : HostM (Machine ν) Unit) := by
  refine machine.bind fun h ↦ ?_
  split
  · exact fun w ↦ ⟨w.host, rfl⟩
  · exact pure ()

/-- A call may be interrupted by nothing. -/
theorem interrupted :
    ActsOnHost (monadLift (Pure.pure () : StateM (World (Machine ν)) Unit) :
      HostM (Machine ν) Unit) := fun w ↦ ⟨w.host, rfl⟩

/-- Registering a service acts on the host alone, if there is no interruption. -/
theorem install (r : RegistrationRequest) :
    ActsOnHost (install (Pure.pure ()) r : HostM (Machine ν) Rollback.State) := by
  refine (note _).bind fun _ ↦ interrupted.bind fun _ ↦ (point _).bind fun _ ↦
    machine.bind fun h ↦ ?_
  dsimp only
  split
  · exact (change _).bind fun _ ↦ (change _).bind fun _ ↦ machine.bind fun _ ↦ pure _
  · exact (change _).bind fun _ ↦ machine.bind fun _ ↦ pure _

theorem uninstall (service : String) (state : Rollback.State) :
    ActsOnHost (uninstall (Pure.pure ()) service state : HostM (Machine ν) Unit) :=
  (note _).bind fun _ ↦ interrupted.bind fun _ ↦ (point _).bind fun _ ↦ change _

theorem record (service : String) :
    ActsOnHost ((host (ν := ν) none (Pure.pure ())).records.record service) :=
  (point _).bind fun _ ↦ (point _).bind fun _ ↦ machine.bind fun _ ↦ pure _

theorem setRecord (service line : String) :
    ActsOnHost ((host (ν := ν) none (Pure.pure ())).records.setRecord service line) :=
  (note _).bind fun _ ↦ (point _).bind fun _ ↦ change _

end ActsOnHost

end ActsOnHost

/-! ### A world to rehearse in -/

/-- A world with nothing in it but services. -/
def worldWith (services : List (String × Option String)) : World (Machine Unit) where
  disk := { tree := .empty, workDirectory := [] }
  environment := ⟨[]⟩
  host := { services := services, notes := () }

/-- The management of the services of a machine. -/
def manager : ServiceManager (Machine Unit) where
  records := (host none (pure ())).records
  control := (host none (pure ())).control
  registrar := (host none (pure ())).registrar
  store := ⟨"/state"⟩
  rollback := {}
  waiting := {}
  launcher := "resin.exe"
  patience := 0

end ServerSetup.Rehearsal
