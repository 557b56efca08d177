import ServerSetup.Proofs.Filter.Plan

/-!
# Calls of the web filter

A call registers the filter or removes it. Either way a plan is carried out in the store of filters,
and only then the filter's file is touched (`perform_eq`). A run is one call after the other,
whatever comes of each.

The two calls differ in three things: the plan, what is done with the file, and which statuses stand
for success. `FilterCall` names these, so that the shape of a call is stated once: if the store
fails, the report names the fault and the file is not touched; behind the store the file decides
(`files_behind_store`). A file that is missing when it is to be removed is no fault. A report names
a fault exactly if its status is no success (`fault_perform`).

Runs of calls are what the statements about commits and about repeated registrations are about;
`after` is the world after a run, and `statuses` are the statuses of its calls.
-/

namespace ServerSetup

/-- A call of the web filter. -/
inductive FilterCall
  | register (home scripts : String)
  | deregister (scripts : String)

namespace FilterStatus

/-- A status without a fault behind it. -/
def isSuccess : FilterStatus → Bool
  | ioError | storeError => false
  | _ => true

/-- A success that tells of a change. -/
def isChange : FilterStatus → Bool
  | configuredOk | removedOk => true
  | _ => false

end FilterStatus

/-- The status of a call that succeeds. -/
def FilterCall.success (changed : Bool) : FilterCall → FilterStatus
  | register .. => if changed then .configuredOk else .alreadyConfigured
  | deregister .. => if changed then .removedOk else .alreadyRemoved

theorem FilterCall.isChange_success (call : FilterCall) (changed : Bool) :
    (call.success changed).isChange = changed := by
  cases call <;> cases changed <;> rfl

theorem FilterCall.isSuccess_success (call : FilterCall) (changed : Bool) :
    (call.success changed).isSuccess = true := by
  cases call <;> cases changed <;> rfl

namespace FilterSetup

variable {η : Type} (f : FilterSetup η)

/-- What a call is to change in the store. -/
def plan : FilterCall → FilterPlan
  | .register _ scripts => f.registration scripts
  | .deregister _ => f.removal

/-- What either call does to the entries leaves the load order alone. -/
theorem plan_leavesOrder (call : FilterCall) : (f.plan call).LeavesOrder := by
  intro entries change hchange
  cases call with
  | register home scripts =>
    obtain ⟨-, rfl⟩ : _ ∧ FilterChange.put (f.wanted scripts) = change := by
      simpa [plan, registration] using hchange
    rfl
  | deregister scripts =>
    obtain ⟨entry, -, rfl⟩ := Option.map_eq_some_iff.1 hchange
    rfl

/-- Performs a call. -/
def perform : FilterCall → StateM (World η) FilterReport
  | .register home scripts => f.register home scripts
  | .deregister scripts => f.deregister scripts

/-- What a call does with the filter's file. -/
def fileWork : FilterCall → DiskM Unit
  | .register home scripts => Disk.copy (f.source home) (f.target scripts)
  | .deregister scripts => Disk.remove (f.target scripts)

/-- The report of a call after the file was dealt with. -/
def ending (call : FilterCall) (changed : Bool) : Except IoKind Unit → FilterReport
  | .ok () => ⟨call.success changed, none⟩
  | .error kind => match call, kind with
    | .deregister _, .notFound => ⟨call.success changed, none⟩
    | .register home scripts, kind =>
      ioReport ("复制 " ++ f.source home ++ " 到 " ++ f.target scripts ++ " 失败") kind
    | .deregister scripts, kind => ioReport ("删除 " ++ f.target scripts ++ " 失败") kind

/-- A step of a call is taken, and the rest goes on from there. -/
theorem bind_apply {α β : Type} (op : StateM (World η) α) (next : α → StateM (World η) β)
    (w : World η) : (op >>= next) w = next (op w).1 (op w).2 := rfl

theorem onDisk_eq {α : Type} (op : DiskM α) (w : World η) :
    onDisk op w = ((op w.disk).1, { w with disk := (op w.disk).2 }) := rfl

/-- **A call carries out its plan, and touches the file only if that succeeds.** -/
theorem perform_eq (call : FilterCall) (w : World η) :
    f.perform call w = match f.store.carryOut (f.plan call) w with
      | (.error fault, w') => (⟨.storeError, some fault⟩, w')
      | (.ok changed, w') => (f.ending call changed (f.fileWork call w'.disk).1,
          { w' with disk := (f.fileWork call w'.disk).2 }) := by
  cases call with
  | register home scripts =>
    rw [perform, register, registerEntry_eq, bind_apply]
    simp only [plan]
    rcases f.store.carryOut (f.registration scripts) w with ⟨fault | changed, w'⟩
    · rfl
    · dsimp only
      rw [bind_apply, onDisk_eq]
      simp only [fileWork]
      rcases Disk.copy (f.source home) (f.target scripts) w'.disk with ⟨kind | ⟨⟩, disk⟩
      · rfl
      · rfl
  | deregister scripts =>
    rw [perform, deregister, remove_eq, bind_apply]
    simp only [plan]
    rcases f.store.carryOut f.removal w with ⟨fault | found, w'⟩
    · rfl
    · dsimp only
      rw [bind_apply, onDisk_eq]
      simp only [fileWork]
      rcases Disk.remove (f.target scripts) w'.disk with ⟨kind | ⟨⟩, disk⟩
      · cases kind <;> rfl
      · rfl

/-- Behind the store, a call ends with the status of a success, or with a fault of the file. -/
theorem status_ending (call : FilterCall) (changed : Bool) (r : Except IoKind Unit) :
    (f.ending call changed r).status = .ioError ∨
      (f.ending call changed r).status = call.success changed := by
  rcases r with kind | ⟨⟩
  · cases call with
    | register home scripts => exact .inl rfl
    | deregister scripts =>
      cases kind with
      | notFound => exact .inr rfl
      | _ => exact .inl rfl
  · exact .inr rfl

/-- Behind the store, a fault is named exactly if the status is no success. -/
theorem fault_ending (call : FilterCall) (changed : Bool) (r : Except IoKind Unit) :
    (f.ending call changed r).fault = none ↔
      (f.ending call changed r).status.isSuccess = true := by
  have hsuccess := call.isSuccess_success changed
  rcases r with kind | ⟨⟩
  · cases call with
    | register home scripts => simp [ending, ioReport, FilterStatus.isSuccess]
    | deregister scripts =>
      cases kind with
      | notFound => simp [ending, hsuccess]
      | _ => simp [ending, ioReport, FilterStatus.isSuccess]
  · simp [ending, hsuccess]

variable {f} {call : FilterCall} {w : World η}

/-- **A report names a fault exactly if its status is no success.** -/
theorem fault_perform (f : FilterSetup η) (call : FilterCall) (w : World η) :
    (f.perform call w).1.fault = none ↔ (f.perform call w).1.status.isSuccess = true := by
  rw [perform_eq]
  rcases f.store.carryOut (f.plan call) w with ⟨fault | changed, w'⟩
  · simp [FilterStatus.isSuccess]
  · exact f.fault_ending call changed _

/-- **A file is touched only behind a store's part that has succeeded,** and that part stays as it
is, whatever comes of the file. -/
theorem files_behind_store (f : FilterSetup η) (call : FilterCall) (w : World η) :
    (f.perform call w).1.status = .storeError ∧
        (f.perform call w).2 = (f.store.carryOut (f.plan call) w).2 ∨
      ∃ changed w', f.store.carryOut (f.plan call) w = (.ok changed, w') ∧
        (f.perform call w).2 = { w' with disk := (f.fileWork call w'.disk).2 } := by
  rw [perform_eq]
  rcases f.store.carryOut (f.plan call) w with ⟨fault | changed, w'⟩
  · exact .inl ⟨rfl, rfl⟩
  · exact .inr ⟨changed, w', rfl, rfl⟩

/-- **Unless a call reports an error of the store, its plan was carried out,** and the host is as
the plan has left it. -/
theorem carried_of_perform (h : (f.perform call w).1.status ≠ .storeError) :
    ∃ entries order w', f.store.Carried (f.plan call) entries order w w' ∧
      (f.perform call w).2.host = w'.host ∧
      ((f.perform call w).1.status = .ioError ∨ (f.perform call w).1.status =
        call.success (! ((f.plan call).writes entries order).isEmpty)) := by
  rw [perform_eq] at h ⊢
  rcases hcarry : f.store.carryOut (f.plan call) w with ⟨fault | changed, w'⟩
  · rw [hcarry] at h
    exact absurd rfl h
  · obtain ⟨entries, order, hcarried, rfl⟩ := FilterStore.carryOut_eq_ok_iff.1 hcarry
    exact ⟨entries, order, w', hcarried, rfl, f.status_ending call _ _⟩

/-- **A registration reports success exactly if its plan was carried out and the file was copied.**
The status tells whether there was anything to change. -/
theorem register_succeeds_iff {home scripts : String} (changed : Bool) :
    (f.register home scripts w).1.status = (FilterCall.register home scripts).success changed ↔
      ∃ w₁, f.store.carryOut (f.registration scripts) w = (.ok changed, w₁) ∧
        (Disk.copy (f.source home) (f.target scripts) w₁.disk).1 = .ok () := by
  have hperform := f.perform_eq (.register home scripts) w
  rw [perform, plan, fileWork] at hperform
  rw [hperform]
  rcases f.store.carryOut (f.registration scripts) w with ⟨fault | found, w₁⟩
  · refine ⟨fun hstatus ↦ ?_, fun ⟨_, hcarry, _⟩ ↦ nomatch hcarry⟩
    cases changed <;> cases hstatus
  · dsimp only
    rcases hcopy : (Disk.copy (f.source home) (f.target scripts) w₁.disk).1 with kind | ⟨⟩
    · refine ⟨fun hstatus ↦ ?_, fun ⟨w₂, hcarry, hcopied⟩ ↦ ?_⟩
      · cases changed <;> cases hstatus
      · cases hcarry
        rw [hcopy] at hcopied
        cases hcopied
    · refine ⟨fun hstatus ↦ ⟨w₁, ?_, hcopy⟩, fun ⟨w₂, hcarry, _⟩ ↦ ?_⟩
      · have hfound := congrArg FilterStatus.isChange hstatus
        rw [FilterCall.isChange_success] at hfound
        rw [← hfound, ending, FilterCall.isChange_success]
      · cases hcarry
        rfl

/-- After a plan was carried out a registration copies the file, whatever comes of that. -/
theorem register_of_carryOut {home scripts : String} {changed : Bool} {w₁ : World η}
    (hcarry : f.store.carryOut (f.registration scripts) w = (.ok changed, w₁)) :
    (f.register home scripts w).2 =
      { w₁ with disk := (Disk.copy (f.source home) (f.target scripts) w₁.disk).2 } := by
  have hperform := f.perform_eq (.register home scripts) w
  rw [plan, hcarry] at hperform
  exact congrArg Prod.snd hperform

/-- **On a calm host a call carries out its plan,** so it ends as the file allows. -/
theorem perform_of_calm {calm : η → Prop} (hcalm : f.store.Dependable calm) (call : FilterCall)
    (hw : calm w.host) : ∃ entries order h,
      f.store.Carried (f.plan call) entries order w { w with host := h } ∧ calm h ∧
      f.perform call w =
        (f.ending call (! ((f.plan call).writes entries order).isEmpty) (f.fileWork call w.disk).1,
          { w with host := h, disk := (f.fileWork call w.disk).2 }) := by
  obtain ⟨entries, order, h, hcarried, hh⟩ := hcalm.carried (f.plan call) hw
  refine ⟨entries, order, h, hcarried, hh, ?_⟩
  rw [perform_eq, FilterStore.carryOut_eq_ok_iff.2 ⟨entries, order, hcarried, rfl⟩]

/-! ### Runs -/

variable (f)

/-- The world after calls. -/
def after (calls : List FilterCall) (w : World η) : World η :=
  calls.foldl (fun w call ↦ (f.perform call w).2) w

/-- The status of each of the calls of a run. -/
def statuses : List FilterCall → World η → List FilterStatus
  | [], _ => []
  | call :: calls, w => (f.perform call w).1.status :: statuses calls (f.perform call w).2

theorem after_append_singleton (calls : List FilterCall) (call : FilterCall) (w : World η) :
    f.after (calls ++ [call]) w = (f.perform call (f.after calls w)).2 := by
  rw [after, List.foldl_append]
  rfl

/-- The status of the last call of a run comes behind those of the others. -/
theorem statuses_append_singleton (calls : List FilterCall) (call : FilterCall) (w : World η) :
    f.statuses (calls ++ [call]) w =
      f.statuses calls w ++ [(f.perform call (f.after calls w)).1.status] := by
  induction calls generalizing w with
  | nil => rfl
  | cons first calls ih =>
    rw [List.cons_append, statuses, ih, statuses, List.cons_append]
    rfl

end FilterSetup

end ServerSetup
