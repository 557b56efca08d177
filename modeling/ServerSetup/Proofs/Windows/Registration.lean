import ServerSetup.Proofs.Windows.EventSource

/-!
# Registration as a transaction

A registration makes a service and describes it. If the service cannot be described it is deleted
again. A registration that fails leaves the services as they were, and one that succeeds has added
one service and nothing else; to unregister this service later brings the earlier services back
(`install_transaction`). All of this holds on every documented system, so it is said in the terms of
the service manager:

* Services are the same if they have the same settings. Their run states may differ, since services
  start and stop as they like, also between a registration and its undoing (`View.Drifts`). That is
  why an unregistration stops a service before it deletes it.
* A service that was deleted is only marked, and goes when it has stopped and nobody has it open. So
  a service that was taken back may be seen for a while, but not among the registered ones
  (`View.registered`), and not once it has stopped and was let go (`View.Restored`).

The parts of a registration that make no change are covered by `unobtrusive_drifts`. What is left
are three calls, which make, describe and delete a service. They change one service each, so what a
registration or an unregistration does is a chain of such changes with drifts between them:
`View.Added`, which a description keeps up, and `View.Removed`, which takes it back.

The wait for a stop, which comes before the deletion (`deletesSettled_of_uninstall`), ends when the
service was seen stopped, when a call fails, or when the time is over (`settleBeforeDelete_ends`).
It never ends because it runs out of queries.
-/

namespace ServerSetup.Windows

variable {η : Type} {sys : System η}

namespace View

variable {v : View sys} {name other : String} {info : ServiceInfo} {w w₁ w₂ : World η}

/-! ### Changes of services, one after the other -/

/-- The services are those of before. The one with a name may still be seen, though marked for
deletion; once it has stopped it is seen only while a handle to it is open. -/
structure Restored (v : View sys) (name : String) (w w' : World η) : Prop where
  registered : ∀ other, v.registered w'.host other = v.registered w.host other
  seen : ∀ other e, v.entry w'.host other = some e → v.entry w.host other ≠ none ∨
    (v.SameName other name ∧ e.deleted = true ∧ (e.state = .stopped → e.held = true))

instance : IsPreorder (World η) v.Drifts where
  refl _ := ⟨fun _ ↦ rfl, fun _ h ↦ h⟩
  trans _ _ _ h h' := ⟨fun name ↦ (h'.registered name).trans (h.registered name),
    fun name hnone ↦ h'.absent name (h.absent name hnone)⟩

/-- A change that does not reach the services is none. -/
theorem Drifts.of_host (h : w₁.host = w.host) : v.Drifts w w₁ :=
  ⟨fun name ↦ by rw [h], fun name hnone ↦ by rwa [h]⟩

theorem Drifts.but (h : v.Drifts w w₁) (name : String) : v.DriftsBut name w w₁ :=
  ⟨fun other _ ↦ h.registered other, fun other _ ↦ h.absent other⟩

namespace DriftsBut

theorem trans (h : v.DriftsBut name w w₁) (h' : v.DriftsBut name w₁ w₂) : v.DriftsBut name w w₂ :=
  ⟨fun other hne ↦ (h'.registered other hne).trans (h.registered other hne),
    fun other hne hnone ↦ h'.absent other hne (h.absent other hne hnone)⟩

/-- Which service is left out does not depend on how its name is written. -/
theorem of_sameName (hname : v.SameName name other) (h : v.DriftsBut name w w₁) :
    v.DriftsBut other w w₁ :=
  ⟨fun another hne ↦ h.registered another fun hsame ↦ hne (Eq.trans hsame hname),
    fun another hne ↦ h.absent another fun hsame ↦ hne (Eq.trans hsame hname)⟩

end DriftsBut

/-- What is registered under a name does not depend on how the name is written. -/
theorem registered_congr (laws : ServiceLaws v) {h : η} (hname : v.SameName name other) :
    v.registered h name = v.registered h other := by
  rw [View.registered, laws.entry_congr hname, View.registered]

/-- A service that is there but not registered is marked for deletion. -/
theorem deleted_of_registered_eq_none {h : η} {e : Entry v.Settings}
    (hentry : v.entry h name = some e) (hnone : v.registered h name = none) : e.deleted = true := by
  rw [View.registered, hentry, Option.bind_some] at hnone
  split at hnone
  · assumption
  · cases hnone

namespace Added

/-- What drifts before a service is added makes no difference. -/
theorem after (h : v.Drifts w w₁) (h' : v.Added info w₁ w₂) : v.Added info w w₂ where
  toDriftsBut := (h.but _).trans h'.toDriftsBut
  new := (h.registered _).symm.trans h'.new
  asked := h'.asked

/-- What drifts after a service was added makes no difference. -/
theorem before (h : v.Added info w w₁) (h' : v.Drifts w₁ w₂) : v.Added info w w₂ where
  toDriftsBut := h.toDriftsBut.trans (h'.but _)
  new := h.new
  asked := by
    rw [h'.registered]
    exact h.asked

/-- A service that was added may be described. -/
theorem described (laws : ServiceLaws v) (hname : v.SameName name info.name)
    (h : v.Added info w w₁) (h' : v.Described name w₁ w₂) : v.Added info w w₂ where
  toDriftsBut := h.toDriftsBut.trans (h'.toDriftsBut.of_sameName hname)
  new := h.new
  asked := by
    obtain ⟨settings, hsettings, hinfo⟩ := h.asked
    rw [← registered_congr laws hname] at hsettings
    obtain ⟨settings', hsettings', hsame⟩ := h'.info settings hsettings
    exact ⟨settings', (registered_congr laws hname).symm.trans hsettings', hsame.trans hinfo⟩

end Added

namespace Removed

/-- What drifts before a service is removed makes no difference. -/
theorem after (h : v.Drifts w w₁) (h' : v.Removed name w₁ w₂) : v.Removed name w w₂ where
  toDriftsBut := (h.but _).trans h'.toDriftsBut
  gone := h'.gone

/-- What drifts after a service was removed makes no difference. -/
theorem before (h : v.Removed name w w₁) (h' : v.Drifts w₁ w₂) : v.Removed name w w₂ where
  toDriftsBut := h.toDriftsBut.trans (h'.but _)
  gone := (h'.registered name).trans h.gone

/-- Which service is removed does not depend on how its name is written. -/
theorem of_sameName (laws : ServiceLaws v) (hname : v.SameName name other)
    (h : v.Removed name w w₁) : v.Removed other w w₁ where
  toDriftsBut := h.toDriftsBut.of_sameName hname
  gone := (registered_congr laws hname).symm.trans h.gone

end Removed

/-- Where nothing but drifts has come, the services are those of before. -/
theorem Drifts.restored (h : v.Drifts w w₁) (name : String) : v.Restored name w w₁ where
  registered := h.registered
  seen other e hentry := by
    refine Or.inl fun hnone ↦ ?_
    rw [h.absent other hnone] at hentry
    cases hentry

/-- **A service that was added and then removed has left nothing but a mark.** -/
theorem Added.removed (laws : ServiceLaws v) (h : v.Added info w w₁)
    (h' : v.Removed info.name w₁ w₂) : v.Restored info.name w w₂ where
  registered other := by
    by_cases hname : v.SameName other info.name
    · rw [registered_congr laws hname, registered_congr laws hname, h'.gone, h.new]
    · rw [h'.registered other hname, h.registered other hname]
  seen other e hentry := by
    by_cases hname : v.SameName other info.name
    · have hnone : v.registered w₂.host other = none := (registered_congr laws hname).trans h'.gone
      have hdeleted := deleted_of_registered_eq_none hentry hnone
      exact Or.inr ⟨hname, hdeleted, laws.deleted_held hentry hdeleted⟩
    · refine Or.inl fun hnone ↦ ?_
      rw [h'.absent other hname (h.absent other hname hnone)] at hentry
      cases hentry

end View

open View

variable {v : View sys} {w w₁ w₂ : World η} {r : RegistrationRequest} {name : String}
  {state : Rollback.State}

/-- To look at a service, or to stop it, changes no settings. -/
theorem unobtrusive_drifts (laws : Documented v) (name : String) :
    Unobtrusive v name v.Drifts where
  connect := laws.services.connect
  closeManager := laws.services.closeManager
  openService manager rights := laws.services.openService manager name rights
  closeService handle _ := laws.services.closeService handle
  queryStatus handle _ := laws.services.queryStatus handle
  stop handle _ := laws.services.stop handle
  openKey := laws.parts.openKey
  clock _ _ := .of_host rfl

/-! ### Control -/

/-- **To control services changes none of their settings**, whatever comes of it. -/
theorem drifts_control (laws : Documented v) (name : String) :
    Leads v.Drifts ((serviceControl sys.services).status name) ∧
    Leads v.Drifts ((serviceControl sys.services).start name) ∧
    Leads v.Drifts ((serviceControl sys.services).stop name) := by
  have hR := unobtrusive_drifts laws name
  have hrequire {use : sys.services.Service → HostM η Unit} {rights : List ServiceAccess}
      (huse : ∀ handle, Leads v.Drifts (use handle)) (manager : sys.services.Manager) :
      Leads v.Drifts (do
        let handle ← requireService manager name rights
        withService sys.services handle (use handle) : HostM η Unit) := by
    refine Leads.bind (hR.lookUpThen laws.services (.throw _) fun _ _ ↦ .pure _)
      fun w handle w' _ ↦ ?_
    exact (huse handle).releasing (laws.services.closeService handle) w'
  refine ⟨hR.withManager fun manager ↦ ?_, hR.withManager fun manager ↦ ?_,
    hR.withManager fun manager ↦ ?_⟩
  · refine hR.lookUpThen laws.services (.pure _) fun handle hname ↦ hR.withService hname ?_
    exact (laws.services.queryStatus handle).doing.andThen fun _ ↦ .pure _
  · exact hrequire (fun handle ↦ (laws.services.start handle).doing) manager
  · exact hrequire (fun handle ↦ (laws.services.stop handle).doing) manager

/-! ### Registration -/

/-- A service is made as asked for, or no service changes. -/
theorem make_cases (laws : Documented v) (manager : sys.services.Manager) (r : RegistrationRequest)
    (w : World η) :
    (∃ fault w₁, make sys manager r w = (.error fault, w₁) ∧ v.Drifts w w₁) ∨
    ∃ existed handle w₁, make sys manager r w = (.ok (existed, handle), w₁) ∧
      v.SameName (v.serviceName handle) r.serviceName ∧ v.Added (infoOf r) w w₁ := by
  have hR := unobtrusive_drifts laws r.serviceName
  have hthere := hR.isThere laws.services manager w
  rw [make, StateExcept.bind_eq]
  rcases hfound : isThere manager r.serviceName w with ⟨fault | found, w₁⟩
  · rw [hfound] at hthere
    exact Or.inl ⟨fault, w₁, rfl, hthere⟩
  rw [hfound] at hthere
  -- A service of the name is there already, and nothing was changed; or there is none, and the
  -- event source is looked for before the service is created.
  cases found
  · have hlooked := hR.observed r.serviceName w₁
    dsimp only
    rw [if_neg Bool.false_ne_true, StateExcept.bind_eq]
    rcases hobserved : observed sys.registry r.serviceName w₁ with ⟨fault | existed, w₂⟩
    · rw [hobserved] at hlooked
      exact Or.inl ⟨fault, w₂, rfl, trans_of _ hthere hlooked⟩
    rw [hobserved] at hlooked
    have hdrifts : v.Drifts w w₂ := trans_of _ hthere hlooked
    dsimp only
    rw [StateExcept.bind_eq, doing]
    rcases hcreate : sys.services.createService manager (infoOf r) [.changeConfig, .delete] w₂ with
      ⟨e | handle, w₃⟩
    · exact Or.inl ⟨_, w₃, rfl, trans_of _ hdrifts (laws.services.createService_error hcreate)⟩
    · obtain ⟨hname, hadded⟩ := laws.services.createService_ok hcreate
      exact Or.inr ⟨existed, handle, w₃, rfl, hname, hadded.after hdrifts⟩
  · exact Or.inl ⟨_, w₁, rfl, hthere⟩

/-- If the registration deletes a service to take it back, the deletion succeeds. -/
def Compensates (sys : System η) (r : RegistrationRequest) (w : World η) : Prop :=
  ∀ manager w₁ existed handle w₂ e w₃,
    sys.services.connect [.connect, .createService] w = (.ok manager, w₁) →
    make sys manager r w₁ = (.ok (existed, handle), w₂) →
    sys.services.setDescription handle (descriptionOf r) w₂ = (.error e, w₃) →
    ∃ w₄, sys.services.delete handle w₃ = (.ok (), w₄)

/-- A registration restores the services and fails, or it adds one service. -/
theorem install_cases (laws : Documented v) (hback : Compensates sys r w) :
    (∃ fault w₁, install sys r w = (.error fault, w₁) ∧ v.Restored r.serviceName w w₁) ∨
    ∃ state w₁, install sys r w = (.ok state, w₁) ∧ state.alreadyRegistered = false ∧
      v.Added (infoOf r) w w₁ := by
  have hconnected := laws.services.connect [.connect, .createService] w
  rw [install, withManager, StateExcept.bind_eq, doing]
  rcases hconnect : sys.services.connect [.connect, .createService] w with ⟨e | manager, w₁⟩
  · rw [hconnect] at hconnected
    exact Or.inl ⟨_, w₁, rfl, hconnected.restored _⟩
  rw [hconnect] at hconnected
  dsimp only
  rw [releasing, StateExcept.bind_eq]
  rcases make_cases laws manager r w₁ with
    ⟨fault, w₂, hmake, hdrifts⟩ | ⟨existed, handle, w₂, hmake, hname, hadded⟩
  · rw [hmake]
    exact Or.inl ⟨fault, _, rfl, (trans_of v.Drifts hconnected
      (trans_of _ hdrifts (laws.services.closeManager manager w₂))).restored _⟩
  rw [hmake]
  have hclosed (w : World η) : v.Drifts w
      (sys.services.closeManager manager (sys.services.closeService handle w).2).2 :=
    trans_of _ (laws.services.closeService handle w) (laws.services.closeManager manager _)
  dsimp only
  rw [withService, releasing, StateExcept.bind_eq, describe]
  rcases hdescribe : sys.services.setDescription handle (descriptionOf r) w₂ with ⟨e | ⟨⟩, w₃⟩
  · obtain ⟨w₄, hdelete⟩ := hback manager w₁ existed handle w₂ e w₃ hconnect hmake hdescribe
    have hremoved := ((laws.services.delete_ok hdelete).of_sameName laws.services hname).after
      (laws.services.setDescription_error hdescribe)
    -- The description was refused: the service is deleted again, and the handles are closed.
    refine Or.inl ⟨_, _, rfl, (hadded.after hconnected).removed laws.services ?_⟩
    show v.Removed _ _ (sys.services.closeManager manager
      (sys.services.closeService handle (sys.services.delete handle w₃).2).2).2
    rw [hdelete]
    exact hremoved.before (hclosed w₄)
  · refine Or.inr ⟨_, _, rfl, rfl, ?_⟩
    refine (((hadded.after hconnected).described laws.services hname
      (laws.services.setDescription_ok hdescribe)).before ?_).before (hclosed _)
    exact .of_host rfl

/-! ### Unregistration -/

/-- A service that was stopped and deleted is removed, and so is one that was not there. -/
theorem removed_of_removeService (laws : Documented v) {manager : sys.services.Manager}
    {pauseMs queries : Nat}
    (h : removeService sys.services manager pauseMs queries name w = (.ok (), w₁)) :
    v.Removed name w w₁ := by
  have hR := unobtrusive_drifts laws name
  obtain ⟨found, w₂, hlook, h⟩ := StateExcept.bind_eq_ok_iff.1 h
  have hlooked := hR.lookUp manager [.queryStatus, .stop, .delete] w
  rw [hlook] at hlooked
  cases found with
  | none =>
    obtain ⟨e, hopen, hmissing⟩ := lookUp_eq_none hlook
    cases h
    refine ⟨hlooked.but name, ?_⟩
    rw [View.registered, laws.services.openService_missing hopen hmissing, Option.bind_none]
  | some handle =>
    have hname := laws.services.openService_name (lookUp_eq_some hlook)
    obtain ⟨w₃, huse, rfl⟩ := releasing_eq_ok_iff.1 h
    obtain ⟨⟨⟩, w₄, hsettle, hdelete⟩ := StateExcept.bind_eq_ok_iff.1 huse
    have hsettled := hR.settleBeforeDelete hname pauseMs queries w₂
    rw [hsettle] at hsettled
    have hremoved := (laws.services.delete_ok (doing_eq_ok_iff.1 hdelete)).of_sameName
      laws.services hname
    exact (hremoved.after (trans_of _ hlooked hsettled)).before
      (laws.services.closeService handle w₃)

/-! ### The wait for a stop -/

/-- What ends the wait for a stop: the service was seen stopped, or a query fails, or the time since
its start is over. -/
inductive WaitEnds (services : ServiceApi η) (service : services.Service) (start : Nat) :
    World η → Prop
  | stopped {before after : World η}
      (h : services.queryStatus service before = (.ok .stopped, after)) :
      WaitEnds services service start after
  | failed {before after : World η} {e : ServiceError}
      (h : services.queryStatus service before = (.error e, after)) :
      WaitEnds services service start after
  | over {after : World η} (h : stopTimeoutMs * 1000000 ≤ after.clock - start) :
      WaitEnds services service start after

variable {services : ServiceApi η} {handle : services.Service}

/-- A wait ends for one of these reasons if the queries that are left fill its time. -/
theorem waitEnds_awaitStopped (hclock : ∀ w, w.clock ≤ (services.queryStatus handle w).2.clock)
    {pauseMs start queries : Nat} {w : World η} (hstart : start ≤ w.clock)
    (henough : stopTimeoutMs * 1000000 ≤ w.clock - start + queries * (pauseMs * 1000000)) :
    WaitEnds services handle start (awaitStopped services handle pauseMs start queries w).2 := by
  -- every query that is used up has let a pause of the time pass
  induction queries generalizing w with
  | zero => exact .over (by rwa [Nat.zero_mul, Nat.add_zero] at henough)
  | succ queries ih =>
    rw [awaitStopped]
    show WaitEnds services handle start
      ((if stopTimeoutMs * 1000000 ≤ w.clock - start then _ else _ : ServiceM η Unit) w).2
    split
    · exact .over ‹_›
    · have hlater := hclock w
      rw [StateExcept.bind_eq]
      rcases hquery : services.queryStatus handle w with ⟨e | state, w₁⟩
      · exact .failed hquery
      · rw [hquery] at hlater
        dsimp only at hlater ⊢
        by_cases hstopped : state = .stopped
        · rw [if_pos hstopped]
          rw [hstopped] at hquery
          exact .stopped hquery
        · rw [if_neg hstopped]
          have hpaused : start ≤ w₁.clock + pauseMs * 1000000 := by omega
          refine @ih { w₁ with clock := w₁.clock + pauseMs * 1000000 } hpaused ?_
          show stopTimeoutMs * 1000000 ≤
            w₁.clock + pauseMs * 1000000 - start + queries * (pauseMs * 1000000)
          rw [Nat.succ_mul] at henough
          omega

/-- **How the wait before a deletion ends**, on a clock that does not go back and with the queries
that `serviceRegistrar` allows: at once, if the service has stopped or cannot be queried; or with
the stop, if it is refused; or when the stop has come, or its time is over. -/
theorem settleBeforeDelete_ends (hclock : ∀ w, w.clock ≤ (services.queryStatus handle w).2.clock)
    {pauseMs : Nat} (hpause : 0 < pauseMs) (w : World η) :
    let w' := (settleBeforeDelete services handle pauseMs
      ((stopTimeoutMs + pauseMs - 1) / max pauseMs 1) w).2
    (∃ e, services.queryStatus handle w = (.error e, w')) ∨
    services.queryStatus handle w = (.ok .stopped, w') ∨
    ∃ state w₁, services.queryStatus handle w = (.ok state, w₁) ∧
      ((∃ e, services.stop handle w₁ = (.error e, w')) ∨
        ∃ w₂, services.stop handle w₁ = (.ok (), w₂) ∧
          WaitEnds services handle w₂.clock w') := by
  intro w'
  have hw' : w' = (settleBeforeDelete services handle pauseMs
    ((stopTimeoutMs + pauseMs - 1) / max pauseMs 1) w).2 := rfl
  rw [settleBeforeDelete, ignoring, StateExcept.bind_eq] at hw'
  rcases hquery : services.queryStatus handle w with ⟨e | state, w₁⟩
  · rw [hquery] at hw'
    subst hw'
    exact Or.inl ⟨e, rfl⟩
  rw [hquery] at hw'
  dsimp only at hw'
  by_cases hstopped : state = .stopped
  · rw [if_pos hstopped] at hw'
    subst hstopped hw'
    exact Or.inr (Or.inl rfl)
  · rw [if_neg hstopped] at hw'
    refine Or.inr (Or.inr ⟨state, w₁, rfl, ?_⟩)
    rw [StateExcept.bind_eq] at hw'
    rcases hstop : services.stop handle w₁ with ⟨e | ⟨⟩, w₂⟩
    · rw [hstop] at hw'
      subst hw'
      exact Or.inl ⟨e, rfl⟩
    · rw [hstop] at hw'
      refine Or.inr ⟨w₂, rfl, ?_⟩
      rw [hw']
      refine waitEnds_awaitStopped hclock (le_refl _) ?_
      -- The number of looks was rounded up, so all pauses together fill the time allowed.
      have hfill : stopTimeoutMs ≤ (stopTimeoutMs + pauseMs - 1) / pauseMs * pauseMs := by
        have hrest := Nat.div_add_mod (stopTimeoutMs + pauseMs - 1) pauseMs
        have hless := Nat.mod_lt (stopTimeoutMs + pauseMs - 1) hpause
        rw [Nat.mul_comm] at hrest
        omega
      rw [Nat.sub_self, Nat.zero_add, Nat.max_eq_left hpause, ← Nat.mul_assoc]
      exact Nat.mul_le_mul_right _ hfill

/-- To delete an event source changes no settings of services. -/
theorem drifts_dropEventSource (laws : Documented v) (service : String) :
    Leads v.Drifts (dropEventSource sys.registry service) := by
  refine (laws.parts.openKey .localMachine sourcesKey true).doing.bind fun w sources w₁ hopen ↦ ?_
  have hpath := laws.registry.openKey_path (doing_eq_ok_iff.1 hopen)
  exact (laws.parts.deleteTree sources service hpath).ifFound.doing.andThen (fun _ ↦ .pure _) w₁

/-- **What an unregistration that succeeds leaves of the services**: all but the one. -/
theorem removed_of_uninstall (laws : Documented v) {pauseMs queries : Nat}
    (hstate : state.alreadyRegistered = false)
    (h : uninstall sys pauseMs queries name state w = (.ok (), w₁)) : v.Removed name w w₁ := by
  rw [uninstall_run pauseMs queries hstate] at h
  obtain ⟨manager, w₂, hconnect, h⟩ := StateExcept.bind_eq_ok_iff.1 h
  obtain ⟨w₃, huse, rfl⟩ := releasing_eq_ok_iff.1 h
  obtain ⟨⟨⟩, w₄, hremove, hdrop⟩ := StateExcept.bind_eq_ok_iff.1 huse
  have hconnected := laws.services.connect [.connect] w
  rw [doing_eq_ok_iff.1 hconnect] at hconnected
  have hdropped : v.Drifts w₄ w₃ := by
    cases hexisted : state.eventLogExisted
    · rw [hexisted] at hdrop
      cases hdrop
      exact (drifts_dropEventSource laws name).ignoring w₄
    · rw [hexisted] at hdrop
      cases hdrop
      exact refl _
  exact (((removed_of_removeService laws hremove).after hconnected).before hdropped).before
    (laws.services.closeManager manager w₃)

/-- In an unregistration, the service is found, and is deleted after it was stopped and waited
for. -/
def DeletesSettled (sys : System η) (pauseMs queries : Nat) (name : String) (w : World η) :
    Prop :=
  ∃ manager w₁ handle w₂ w₃, sys.services.connect [.connect] w = (.ok manager, w₁) ∧
    sys.services.openService manager name [.queryStatus, .stop, .delete] w₁ = (.ok handle, w₂) ∧
    sys.services.delete handle (settleBeforeDelete sys.services handle pauseMs queries w₂).2 =
      (.ok (), w₃)

/-- An unregistration that succeeds has waited for a service that is registered before it has
deleted it. -/
theorem deletesSettled_of_uninstall (laws : Documented v) {pauseMs queries : Nat}
    (hstate : state.alreadyRegistered = false) (hthere : v.registered w.host name ≠ none)
    (h : uninstall sys pauseMs queries name state w = (.ok (), w₁)) :
    DeletesSettled sys pauseMs queries name w := by
  rw [uninstall_run pauseMs queries hstate] at h
  obtain ⟨manager, w₂, hconnect, h⟩ := StateExcept.bind_eq_ok_iff.1 h
  obtain ⟨w₃, huse, -⟩ := releasing_eq_ok_iff.1 h
  obtain ⟨⟨⟩, w₄, hremove, -⟩ := StateExcept.bind_eq_ok_iff.1 huse
  obtain ⟨found, w₅, hlook, hfound⟩ := StateExcept.bind_eq_ok_iff.1 hremove
  rw [doing_eq_ok_iff] at hconnect
  cases found with
  | none =>
    obtain ⟨e, hopen, hmissing⟩ := lookUp_eq_none hlook
    have hdrifts := trans_of v.Drifts (laws.services.connect [.connect] w)
      (laws.services.openService manager name [.queryStatus, .stop, .delete] _)
    rw [hconnect, hopen] at hdrifts
    refine absurd ?_ hthere
    rw [← hdrifts.registered, View.registered, laws.services.openService_missing hopen hmissing,
      Option.bind_none]
  | some handle =>
    obtain ⟨w₆, huse, -⟩ := releasing_eq_ok_iff.1 hfound
    obtain ⟨⟨⟩, w₇, hsettle, hdelete⟩ := StateExcept.bind_eq_ok_iff.1 huse
    cases hsettle
    exact ⟨manager, w₂, handle, w₅, w₆, hconnect, lookUp_eq_some hlook, doing_eq_ok_iff.1 hdelete⟩

/-! ### The transaction -/

/-- A machine with another service, which refuses calls at some points. -/
def worldBeside (failing : List String) : World Machine where
  disk := { tree := .empty, workDirectory := [] }
  environment := ⟨[]⟩
  host := { services := [("db", { state := .running })], failing := failing }

/-- What a machine refuses does not change by what it does. -/
def SameRefusals (w w' : World Machine) : Prop := w'.host.failing = w.host.failing

instance : IsPreorder (World Machine) SameRefusals where
  refl _ := rfl
  trans _ _ _ h h' := Eq.trans h' h

/-- A query does not change what is refused. -/
theorem failing_queryStatus (m : Machine) (service : String) :
    (m.queryStatus service).2.failing = m.failing := by
  rw [Machine.queryStatus]
  split
  · rfl
  · split
    · rfl
    · split
      · rfl
      · rfl

/-- To look at a service, or to stop it, does not change what is refused. -/
theorem unobtrusive_sameRefusals (name : String) :
    Unobtrusive Machine.view name SameRefusals where
  connect _ _ := rfl
  closeManager _ _ := rfl
  openService _ _ _ := congrArg Machine.failing Machine.openService_snd
  closeService _ _ _ := rfl
  queryStatus service _ w := failing_queryStatus w.host service
  stop service _ _ := Machine.changing_snd (f := (·.setState service .stopPending)) Machine.failing
    rfl rfl
  openKey _ _ forWriting _ := congrArg Machine.failing (Machine.openKey_snd forWriting)
  clock _ _ := rfl

/-- A machine takes back what it has made, unless it refuses to delete it. -/
theorem compensates_of_refuses {w : World Machine}
    (h : w.host.refuses "delete" r.serviceName = false) : Compensates Machine.system r w := by
  intro manager w₁ existed handle w₂ e w₃ hconnect hmake hdescribe
  have hR := unobtrusive_sameRefusals r.serviceName
  obtain ⟨w₄, w₅, hthere, hobserved, hcreate⟩ := make_eq_ok hmake
  obtain ⟨rfl, -, hmade⟩ :=
    Machine.createService_ok (Machine.host_onMachine (·.createService (infoOf r)) hcreate)
  have h₁ := hR.connect [.connect, .createService] w
  rw [hconnect] at h₁
  have h₄ := hR.isThere Machine.serviceLaws manager w₁
  rw [hthere] at h₄
  have h₅ := hR.observed r.serviceName w₄
  rw [hobserved] at h₅
  have h₂ : SameRefusals w₅ w₂ := by
    rw [SameRefusals, hmade]
    rfl
  have h₃ : SameRefusals w₂ w₃ := by
    rw [SameRefusals,
      Machine.changing_error (Machine.host_onMachine (·.setDescription _ _) hdescribe)]
    rfl
  have hsame : SameRefusals w w₃ :=
    trans_of _ h₁ (trans_of _ h₄ (trans_of _ h₅ (trans_of _ h₂ h₃)))
  have hdelete : w₃.host.refuses "delete" r.serviceName = false := by
    rwa [Machine.refuses, hsame, ← Machine.refuses]
  have hanswer : (w₃.host.delete r.serviceName).1 = .ok () := by
    rw [Machine.delete, Machine.changing, hdelete]
    rfl
  show ∃ w₄, onMachine (·.delete r.serviceName) w₃ = (.ok (), w₄)
  rw [Machine.onMachine_eq, hanswer]
  exact ⟨_, rfl⟩

end ServerSetup.Windows
