import ServerSetup.Proofs.Rollback.Store
import ServerSetup.Proofs.Windows.Calls
import ServerSetup.Proofs.Windows.Machine

/-!
# Event sources that were there before

Whether the event source of a service was there before its registration is observed once, while the
service is registered, and acted on when it is unregistered, maybe much later. The observation may
fail. `install` then takes the event source for one that was not there, and `uninstall` deletes it.

The main result (`eventSource_of_uninstall`) says for which registrations an event source survives,
on every documented system. Nothing is assumed of the answers of the registry and the service
manager: any call may fail, and the same call may fail once and succeed later.

* If the key of the event source could be opened while the service was registered, unregistering
  leaves it as it is, with all below it. It does so as well wherever it fails.
* If the key could not be opened although it was there, unregistering asks for the deletion of the
  event source, and the event source is gone if this deletion succeeds.

Both hold of a state that was saved and loaded in between.

The service manager keeps the record of a service under a key of its own, and may do with this key
what it likes. So the event source must not be within the record. Among the names that a service can
have, only that of the event log itself breaks this rule (`atOrBelow_recordKey_iff`).
-/

namespace ServerSetup.Windows

variable {η : Type} {sys : System η}

namespace View

variable {v : View sys} {name service : String} {w w₁ w₂ : World η}

/-! ### Records and event sources -/

/-- The record of a service is not part of its event source. -/
theorem not_atOrBelow_eventSource (service : String) :
    ¬ v.AtOrBelow (eventSource service) (recordKey service) := by
  intro h
  have hlength := h.length_le
  simp only [length_folded, eventSource, recordKey, sourcesKey, Root.key, String.length_append]
    at hlength
  have hlonger : "\\EventLog\\Application".length = 21 := rfl
  omega

/-- Among names without a separator, only one has its event source within its record: that of the
service to which all event sources belong. Folding must leave separators apart from letters. -/
theorem atOrBelow_recordKey_iff (hfold : ∀ c, v.fold c = v.fold '\\' ↔ c = '\\')
    (h : '\\' ∉ service.toList) :
    v.AtOrBelow (recordKey service) (eventSource service) ↔ v.SameName service "EventLog" := by
  -- behind what both paths have in common, the name ends where the first separator stands
  have hhead {name rest : List Char} (hname : v.fold '\\' ∉ name) :
      (name ++ v.fold '\\' :: rest).takeWhile (· ≠ v.fold '\\') = name := by
    rw [List.takeWhile_append_of_pos, List.takeWhile_cons_of_neg (by simp), List.append_nil]
    intro c hc
    have hne : c ≠ v.fold '\\' := by
      rintro rfl
      exact hname hc
    simpa using hne
  have hplain {name : String} (hname : '\\' ∉ name.toList) : v.fold '\\' ∉ v.folded name := by
    rintro hmem
    obtain ⟨c, hc, heq⟩ := List.mem_map.1 hmem
    rw [hfold] at heq
    exact hname (heq ▸ hc)
  have hseparator : v.folded "\\" = [v.fold '\\'] := rfl
  have hrecord : recordKey service ++ "\\" =
      Root.localMachine.key (recordsKey ++ "\\") ++ (service ++ "\\") := by
    simp [recordKey, Root.key, String.append_assoc]
  have hsource : eventSource service ++ "\\" = Root.localMachine.key (recordsKey ++ "\\") ++
      ("EventLog" ++ ("\\" ++ ("Application\\" ++ service ++ "\\"))) := by
    have hsources : sourcesKey = recordsKey ++ "\\" ++ ("EventLog" ++ ("\\" ++ "Application")) :=
      rfl
    have hlast : "Application\\" = "Application" ++ "\\" := rfl
    simp only [eventSource, hsources, hlast, Root.key, String.append_assoc]
  rw [AtOrBelow, hrecord, hsource]
  simp only [folded_append, hseparator, List.prefix_append_right_inj, List.singleton_append]
  constructor
  · rintro ⟨rest, hrest⟩
    rw [List.append_assoc, List.singleton_append] at hrest
    have hname := congrArg (List.takeWhile (· ≠ v.fold '\\')) hrest
    rwa [hhead (hplain h), hhead (hplain (by decide))] at hname
  · intro hname
    rw [show v.folded service = v.folded "EventLog" from hname]
    exact ⟨_, by rw [List.append_assoc, List.singleton_append]⟩

/-! ### What the registry holds at a key and below it -/

/-- What the registry holds at a key and below it is the same. -/
def SameBranch (v : View sys) (key : String) (w w' : World η) : Prop :=
  ∀ below, v.AtOrBelow key below → v.content w'.host below = v.content w.host below

instance (key : String) : IsPreorder (World η) (v.SameBranch key) where
  refl _ _ _ := rfl
  trans _ _ _ h h' below hbelow := (h' below hbelow).trans (h below hbelow)

theorem SameRegistry.sameBranch (h : v.SameRegistry w w₁) (key : String) : v.SameBranch key w w₁ :=
  fun below _ ↦ congrFun h below

/-- A change of the record of a service does not show at its event source. -/
theorem SameBesides.sameBranch (hapart : ¬ v.AtOrBelow (recordKey service) (eventSource service))
    (hname : v.SameName name service) (h : v.SameBesides (recordKey name) w w₁) :
    v.SameBranch (eventSource service) w w₁ := by
  have hkeys : v.Apart (recordKey name) (eventSource service) :=
    ⟨fun hbelow ↦ hapart (hbelow.of_sameName hname.recordKey),
      fun hbelow ↦ not_atOrBelow_eventSource service
        (hbelow.trans ((AtOrBelow.refl _).of_sameName (Eq.symm hname.recordKey)))⟩
  exact fun below hbelow ↦ h below (hkeys.of_atOrBelow hbelow)

end View

open View

variable {v : View sys} {w w₁ w₂ : World η} {r : RegistrationRequest} {service : String}
  {state : Rollback.State}

/-- Calls that look at a service, or stop it, do not show at its event source. -/
theorem unobtrusive_sameBranch (laws : Documented v)
    (hapart : ¬ v.AtOrBelow (recordKey service) (eventSource service)) :
    Unobtrusive v service (v.SameBranch (eventSource service)) where
  connect rights w := (laws.parts.connect rights w).sameBranch _
  closeManager manager w := (laws.parts.closeManager manager w).sameBranch _
  openService manager rights w :=
    (laws.parts.openService manager service rights w).sameBranch hapart rfl
  closeService handle hname w := (laws.parts.closeService handle w).sameBranch hapart hname
  queryStatus handle hname w := (laws.parts.queryStatus handle w).sameBranch hapart hname
  stop handle hname w := (laws.parts.stop handle w).sameBranch hapart hname
  openKey root path forWriting w :=
    (laws.registry.openKey_leaves root path forWriting w).sameBranch _
  clock _ _ _ _ := rfl

/-! ### Registration -/

/-- The state of a new registration. -/
theorem newState_eq (r : RegistrationRequest) (existed : Bool) (w : World η) :
    newState r existed w = (.ok { Rollback.State.new (.fresh w.drawn) w.now r.serviceName r.account
      with eventLogExisted := existed }, { w with drawn := w.drawn + 1 }) := rfl

/-- The steps of a service that was made. -/
theorem make_eq_ok {manager : sys.services.Manager} {existed : Bool}
    {handle : sys.services.Service} (h : make sys manager r w = (.ok (existed, handle), w₁)) :
    ∃ w₂ w₃, isThere manager r.serviceName w = (.ok false, w₂) ∧
      observed sys.registry r.serviceName w₂ = (.ok existed, w₃) ∧
      sys.services.createService manager (infoOf r) [.changeConfig, .delete] w₃ =
        (.ok handle, w₁) := by
  obtain ⟨found, w₂, hthere, h⟩ := StateExcept.bind_eq_ok_iff.1 h
  cases found
  · obtain ⟨existed', w₃, hobserved, h⟩ := StateExcept.bind_eq_ok_iff.1 h
    obtain ⟨handle', w₄, hcreate, h⟩ := StateExcept.bind_eq_ok_iff.1 h
    cases h
    exact ⟨w₂, w₃, hthere, hobserved, doing_eq_ok_iff.1 hcreate⟩
  · cases h

/-- The steps of a registration that succeeds. -/
theorem install_eq_ok (h : install sys r w = (.ok state, w₁)) :
    ∃ manager w₂ existed handle w₃ w₄,
      sys.services.connect [.connect, .createService] w = (.ok manager, w₂) ∧
      make sys manager r w₂ = (.ok (existed, handle), w₃) ∧
      sys.services.setDescription handle (descriptionOf r) w₃ = (.ok (), w₄) ∧
      newState r existed w₄ = (.ok state, { w₄ with drawn := w₄.drawn + 1 }) ∧
      w₁ = (sys.services.closeManager manager
        (sys.services.closeService handle { w₄ with drawn := w₄.drawn + 1 }).2).2 := by
  obtain ⟨manager, w₂, hconnect, h⟩ := StateExcept.bind_eq_ok_iff.1 h
  obtain ⟨w₅, huse, rfl⟩ := releasing_eq_ok_iff.1 h
  obtain ⟨⟨existed, handle⟩, w₃, hmake, huse⟩ := StateExcept.bind_eq_ok_iff.1 huse
  obtain ⟨w₆, hregister, rfl⟩ := releasing_eq_ok_iff.1 huse
  obtain ⟨⟨⟩, w₄, hdescribe, hnew⟩ := StateExcept.bind_eq_ok_iff.1 hregister
  rw [describe] at hdescribe
  rcases hset : sys.services.setDescription handle (descriptionOf r) w₃ with ⟨e | ⟨⟩, w₇⟩
  · rw [hset] at hdescribe
    cases hdescribe
  · rw [hset] at hdescribe
    cases hdescribe
    cases hnew
    exact ⟨manager, w₂, existed, handle, w₃, w₄, doing_eq_ok_iff.1 hconnect, hmake, hset, rfl, rfl⟩

/-- What a registration is answered when it opens the key of the event source. -/
def Asked (sys : System η) (r : RegistrationRequest) (w : World η)
    (answer : Except IoKind sys.registry.Key) : Prop :=
  ∃ manager w₁ w₂ w₃, sys.services.connect [.connect, .createService] w = (.ok manager, w₁) ∧
    isThere manager r.serviceName w₁ = (.ok false, w₂) ∧
    sys.registry.openKey .localMachine (sourcesKey ++ "\\" ++ r.serviceName) false w₂ = (answer, w₃)

/-- An event source counts as there exactly if its key was opened. -/
theorem observed_eq_ok {existed : Bool} (h : observed sys.registry service w = (.ok existed, w₁)) :
    ∃ answer, sys.registry.openKey .localMachine (sourcesKey ++ "\\" ++ service) false w =
        (answer, w₁) ∧ (existed = true ↔ ∃ key, answer = .ok key) := by
  rw [observed, hasEventSource, StateExcept.bind_eq, doing, ifFound] at h
  rcases hopen : sys.registry.openKey .localMachine (sourcesKey ++ "\\" ++ service) false w with
    ⟨e | key, w₂⟩
  · rw [hopen] at h
    refine ⟨.error e, ?_⟩
    cases e
    all_goals
      cases h
      exact ⟨rfl, by simp⟩
  · rw [hopen] at h
    cases h
    exact ⟨.ok key, rfl, by simp⟩

/-- What a registration has done about an event source that is there: it has left it alone, and has
noted that it is there exactly if its key was opened. The key was not said to be missing. -/
theorem sameBranch_of_install (laws : Documented v)
    (hapart : ¬ v.AtOrBelow (recordKey r.serviceName) (eventSource r.serviceName))
    (hsource : v.content w.host (eventSource r.serviceName) ≠ none)
    (h : install sys r w = (.ok state, w₁)) :
    v.SameBranch (eventSource r.serviceName) w w₁ ∧
    ∃ answer, Asked sys r w answer ∧ answer ≠ .error .notFound ∧
      (state.eventLogExisted = true ↔ ∃ key, answer = .ok key) := by
  have hR := unobtrusive_sameBranch laws hapart
  obtain ⟨manager, w₂, existed, handle, w₃, w₄, hconnect, hmake, hdescribe, hnew, rfl⟩ :=
    install_eq_ok h
  obtain ⟨w₅, w₆, hthere, hobserved, hcreate⟩ := make_eq_ok hmake
  obtain ⟨answer, hopen, hexisted⟩ := observed_eq_ok hobserved
  have hname := (laws.services.createService_ok hcreate).1
  -- what each step leaves at the event source
  have h₂ := hR.connect [.connect, .createService] w
  rw [hconnect] at h₂
  have h₅ := hR.isThere laws.services manager w₂
  rw [hthere] at h₅
  have h₆ := hR.observed r.serviceName w₅
  rw [hobserved] at h₆
  have h₃ := (laws.parts.createService manager (infoOf r) [.changeConfig, .delete] w₆).sameBranch
    hapart rfl
  rw [hcreate] at h₃
  have h₄ := (laws.parts.setDescription handle (descriptionOf r) w₃).sameBranch hapart hname
  rw [hdescribe] at h₄
  have hclosed := trans_of (v.SameBranch _)
    (hR.closeService handle hname { w₄ with drawn := w₄.drawn + 1 }) (hR.closeManager manager _)
  have hseen : v.SameBranch (eventSource r.serviceName) w w₅ := trans_of _ h₂ h₅
  refine ⟨trans_of _ hseen (trans_of _ h₆ (trans_of _ h₃ (trans_of _ h₄ hclosed))),
    answer, ⟨manager, w₂, w₅, w₆, hconnect, hthere, hopen⟩, ?_, ?_⟩
  · rintro rfl
    refine hsource ?_
    rw [← hseen _ (.refl _)]
    exact laws.registry.openKey_missing hopen
  · cases hnew
    exact hexisted

/-! ### Unregistration -/

/-- To stop and delete a service does not show at its event source. -/
theorem sameBranch_removeService (laws : Documented v)
    (hapart : ¬ v.AtOrBelow (recordKey service) (eventSource service))
    (manager : sys.services.Manager) (pauseMs queries : Nat) :
    Leads (v.SameBranch (eventSource service))
      (removeService sys.services manager pauseMs queries service) := by
  have hR := unobtrusive_sameBranch laws hapart
  refine hR.lookUpThen laws.services (.pure _) fun handle hname ↦ hR.withService hname ?_
  refine (hR.settleBeforeDelete hname pauseMs queries).andThen fun _ ↦ Leads.doing fun w ↦ ?_
  exact (laws.parts.delete handle w).sameBranch hapart hname

/-- A service that was not there before its registration is removed if it is there. -/
theorem uninstall_run (pauseMs queries : Nat) (hstate : state.alreadyRegistered = false) :
    uninstall sys pauseMs queries service state =
      withManager sys.services [.connect] (fun manager ↦ do
        removeService sys.services manager pauseMs queries service
        if !state.eventLogExisted then ignoring (dropEventSource sys.registry service)) := by
  rw [uninstall, hstate]
  rfl

/-- An event source that was there before is not touched. -/
theorem sameBranch_of_existed (laws : Documented v)
    (hapart : ¬ v.AtOrBelow (recordKey service) (eventSource service)) (pauseMs queries : Nat)
    (hstate : state.alreadyRegistered = false) (hexisted : state.eventLogExisted = true) :
    Leads (v.SameBranch (eventSource service))
      (uninstall sys pauseMs queries service state) := by
  rw [uninstall_run pauseMs queries hstate, hexisted]
  exact (unobtrusive_sameBranch laws hapart).withManager fun manager ↦
    (sameBranch_removeService laws hapart manager pauseMs queries).andThen fun _ ↦ .pure _

/-- Where an event source counts as new, an unregistration fails before it is touched, or asks for
its deletion as the last thing that it does. -/
theorem uninstall_cases (laws : Documented v)
    (hapart : ¬ v.AtOrBelow (recordKey service) (eventSource service)) (pauseMs queries : Nat)
    (hstate : state.alreadyRegistered = false) (hexisted : state.eventLogExisted = false)
    (w : World η) :
    (∃ fault w₁, uninstall sys pauseMs queries service state w = (.error fault, w₁) ∧
      v.SameBranch (eventSource service) w w₁) ∨
    ∃ manager w₁, v.SameBranch (eventSource service) w w₁ ∧
      uninstall sys pauseMs queries service state w = (.ok (),
        (sys.services.closeManager manager (dropEventSource sys.registry service w₁).2).2) := by
  have hR := unobtrusive_sameBranch laws hapart
  have hopened := hR.connect [.connect] w
  rw [uninstall_run pauseMs queries hstate, hexisted, withManager, StateExcept.bind_eq, doing]
  rcases hconnect : sys.services.connect [.connect] w with ⟨e | manager, w₁⟩
  · rw [hconnect] at hopened
    exact Or.inl ⟨_, w₁, rfl, hopened⟩
  · rw [hconnect] at hopened
    have hremoved := sameBranch_removeService laws hapart manager pauseMs queries w₁
    dsimp only
    rw [releasing, StateExcept.bind_eq]
    rcases hremove : removeService sys.services manager pauseMs queries service w₁ with
      ⟨fault | ⟨⟩, w₂⟩
    · rw [hremove] at hremoved
      exact Or.inl ⟨fault, _, rfl,
        trans_of _ hopened (trans_of _ hremoved (hR.closeManager manager w₂))⟩
    · rw [hremove] at hremoved
      exact Or.inr ⟨manager, w₂, trans_of _ hopened hremoved, rfl⟩

/-- An event source whose deletion succeeds is gone. -/
theorem content_of_dropEventSource (laws : Documented v) (hname : service ≠ "")
    (h : dropEventSource sys.registry service w = (.ok (), w₁)) :
    v.content w₁.host (eventSource service) = none := by
  obtain ⟨sources, w₂, hopen, h⟩ := StateExcept.bind_eq_ok_iff.1 h
  obtain ⟨found, w₃, hdelete, h⟩ := StateExcept.bind_eq_ok_iff.1 h
  cases h
  have hpath : v.SameName (v.path sources) eventSources :=
    laws.registry.openKey_path (doing_eq_ok_iff.1 hopen)
  rw [← laws.registry.content_congr (hpath.source service)]
  rcases ifFound_eq_ok (doing_eq_ok_iff.1 hdelete) with ⟨⟨⟩, -, hdone⟩ | ⟨-, hmissing⟩
  · exact laws.registry.deleteTree_ok hname hdone
  · exact laws.registry.deleteTree_missing hname hmissing

/-! ### The event source of a service that is unregistered -/

/-- **An event source that was there before survives exactly where it could be opened.** Let a
service be registered while its event source is there, and let the record of the service not contain
the event source. Then the registration leaves the event source as it is. The state says that it was
there if and only if its key was opened when the registration asked for it, and says the same after
it was saved and loaded. Unregistering by a state that says so leaves the event source as it is, and
so does unregistering that fails. Otherwise the last thing that unregistering does is to ask for the
deletion of the event source, and if that succeeds, the event source is gone with all below it. -/
theorem eventSource_of_uninstall (laws : Documented v) (h : install sys r w = (.ok state, w₁))
    (hsource : v.content w.host (eventSource r.serviceName) ≠ none)
    (hapart : ¬ v.AtOrBelow (recordKey r.serviceName) (eventSource r.serviceName)) :
    v.SameBranch (eventSource r.serviceName) w w₁ ∧
    (∃ answer, Asked sys r w answer ∧ answer ≠ .error .notFound ∧
      (state.eventLogExisted = true ↔ ∃ key, answer = .ok key)) ∧
    (∀ (store : Rollback.Store) disk kept path disk' found, '/' ∉ r.serviceName.toList →
      state.recordedAt.Valid → store.Filed disk kept → store.save state disk = (.ok path, disk') →
      store.load r.serviceName disk' = .ok (some found) → found = state) ∧
    ∀ pauseMs queries w₂,
      let run := uninstall sys pauseMs queries r.serviceName state w₂
      (state.eventLogExisted = true → v.SameBranch (eventSource r.serviceName) w₂ run.2) ∧
      (∀ fault, run.1 = .error fault → v.SameBranch (eventSource r.serviceName) w₂ run.2) ∧
      (state.eventLogExisted = false → run.1 = .ok () → ∃ manager w₃ answer w₄,
        v.SameBranch (eventSource r.serviceName) w₂ w₃ ∧
        dropEventSource sys.registry r.serviceName w₃ = (answer, w₄) ∧
        run.2 = (sys.services.closeManager manager w₄).2 ∧
        (r.serviceName ≠ "" → answer = .ok () → ∀ key,
          v.AtOrBelow (eventSource r.serviceName) key → v.content run.2.host key = none)) := by
  obtain ⟨hkept, hasked⟩ := sameBranch_of_install laws hapart hsource h
  obtain ⟨-, -, existed, -, -, w₃, -, -, -, hnew, -⟩ := install_eq_ok h
  -- Of the new state only a few fields matter below, so what it was made from is dropped.
  have hstate : state = { Rollback.State.new (.fresh w₃.drawn) w₃.now r.serviceName r.account with
      eventLogExisted := existed } := by
    rw [newState_eq] at hnew
    cases hnew
    rfl
  have hservice : state.serviceName = r.serviceName := by rw [hstate]; rfl
  have hversion : ¬ Rollback.State.currentVersion < state.schemaVersion := by
    rw [hstate]
    exact UInt32.lt_irrefl _
  have hregistered : state.alreadyRegistered = false := by rw [hstate]; rfl
  clear hstate hnew h
  refine ⟨hkept, hasked, ?_, fun pauseMs queries w₂ ↦
    ⟨fun hexisted ↦ ?_, ?_, fun hexisted hok ↦ ?_⟩⟩
  · intro store disk kept path disk' found hname hdated hfiled hsave hload
    have hfiled' := hfiled.save (hservice ▸ hname) hdated hsave
    -- Reading back did not fail: a load that finds a state has read a file.
    have hread (kind : IoKind) (hkind : disk'.read (store.path r.serviceName) = .error kind) :
        kind = .notFound := by
      rw [Rollback.Store.load_eq, hkind, Rollback.Store.stateIn_eq_ok_some_iff] at hload
      obtain ⟨bytes, hbytes, -⟩ := hload
      cases hbytes
    rw [hfiled'.load hname hread, hservice, Function.update_self, Rollback.Store.loaded,
      if_neg hversion] at hload
    exact (Option.some.inj (Except.ok.inj hload)).symm
  · exact sameBranch_of_existed laws hapart pauseMs queries hregistered hexisted w₂
  · intro fault hfault
    rcases hexisted : state.eventLogExisted
    · rcases uninstall_cases laws hapart pauseMs queries hregistered hexisted w₂ with
        ⟨fault', w₃, hrun, hsame⟩ | ⟨manager, w₃, -, hrun⟩
      · rwa [hrun]
      · rw [hrun] at hfault
        cases hfault
    · exact sameBranch_of_existed laws hapart pauseMs queries hregistered hexisted w₂
  · rcases uninstall_cases laws hapart pauseMs queries hregistered hexisted w₂ with
      ⟨fault, w₃, hrun, -⟩ | ⟨manager, w₃, hsame, hrun⟩
    · rw [hrun] at hok
      cases hok
    · rcases hdrop : dropEventSource sys.registry r.serviceName w₃ with ⟨answer, w₄⟩
      rw [hdrop] at hrun
      rw [hrun]
      -- Closing the manager behind the deletion reaches no key.
      refine ⟨manager, w₃, answer, w₄, hsame, hdrop, rfl, ?_⟩
      rintro hname rfl key hbelow
      have hgone := content_of_dropEventSource laws hname hdrop
      show v.content (sys.services.closeManager manager w₄).2.host key = none
      rw [laws.parts.closeManager manager w₄]
      exact laws.registry.content_below hbelow hgone

/-! ### A machine with an event source -/

/-- The registration of a service. -/
def request : RegistrationRequest :=
  ⟨"web", "resin", "C:\\resin.exe", .localSystem⟩

/-- A machine that refuses calls at some points and has the event source of the service. -/
def worldRefusing (failing : List String) : World Machine where
  disk := { tree := .empty, workDirectory := [] }
  environment := ⟨[]⟩
  host := { registry := [(eventSource "web", [("TypesSupported", "7")])], failing := failing }

/-- An event source whose key can be opened stays when the service is registered and
unregistered. -/
theorem eventSource_web_kept :
    let w := worldRefusing []
    let w₁ := (install Machine.system request w).2
    let state := { Rollback.State.new (.fresh 0) .epoch "web" .localSystem with
      eventLogExisted := true }
    let w₂ := (uninstall Machine.system 10000 3 "web" state w₁).2
    (install Machine.system request w).1 = .ok state ∧
      w.host.content (eventSource "web") = some [("TypesSupported", "7")] ∧
      w₁.host.content (eventSource "web") = some [("TypesSupported", "7")] ∧
      w₂.host.content (eventSource "web") = some [("TypesSupported", "7")] := by
  intro w w₁ state w₂
  have hstate : (install Machine.system request w).1 = .ok state := by decide +kernel
  have hinstall : install Machine.system request w = (.ok state, w₁) := Prod.ext hstate rfl
  have hsource : w.host.content (eventSource "web") = some [("TypesSupported", "7")] := by
    decide +kernel
  have hapart : ¬ Machine.view.AtOrBelow (recordKey "web") (eventSource "web") := by
    rw [Machine.atOrBelow_iff]
    decide +kernel
  obtain ⟨hkept, -, -, hundone⟩ := eventSource_of_uninstall Machine.documented hinstall
    (ne_of_eq_of_ne hsource nofun) hapart
  have hsource₁ := hkept _ (.refl _)
  have hsource₂ := (hundone 10000 3 w₁).1 rfl _ (.refl _)
  rw [Machine.content_eq, Machine.content_eq, show request.serviceName = "web" from rfl]
    at hsource₁ hsource₂
  rw [hsource₁] at hsource₂
  rw [hsource] at hsource₁ hsource₂
  exact ⟨hstate, hsource, hsource₁, hsource₂⟩

/-- The key of the event source cannot be opened while the service is registered. The event source
is deleted when the service is unregistered. -/
theorem eventSource_web_lost :
    let w := worldRefusing ["open:" ++ eventSource "web"]
    let state := Rollback.State.new (.fresh 0) .epoch "web" .localSystem
    let w₁ := (install Machine.system request w).2
    let w₂ : World Machine := { w₁ with host := { w₁.host with failing := [] } }
    let run := uninstall Machine.system 10000 3 "web" state w₂
    w.host.content (eventSource "web") = some [("TypesSupported", "7")] ∧
      (install Machine.system request w).1 = .ok state ∧
      w₂.host.content (eventSource "web") = some [("TypesSupported", "7")] ∧
      run.1 = .ok () ∧ run.2.host.content (eventSource "web") = none :=
  ⟨by decide +kernel, by decide +kernel, by decide +kernel, by decide +kernel, by decide +kernel⟩

end ServerSetup.Windows
