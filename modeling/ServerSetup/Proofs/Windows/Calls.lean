import ServerSetup.Proofs.Operation
import ServerSetup.Proofs.Windows.Documented
import ServerSetup.Windows.ServiceManager

/-!
# What the adapters leave alone

Most calls that the adapters make only look, and what is the same after each call of a sequence is
the same after the sequence. So what an operation leaves alone is said as a relation between the
world before it and the world after it (`Leads`), which holds whatever comes of the operation. A
relation that holds of doing nothing, and of one thing after the other, is carried through
sequences, handles and errors that are passed over (`Leads.bind`, `Leads.releasing`,
`Leads.ignoring`).

Two such relations are used: that the services only drift (`View.Drifts`), and that what the
registry holds at an event source and below it is the same (`View.SameBranch`). Both hold of the
calls that look at a service or stop it (`Unobtrusive`), so the parts of the adapters that make no
other calls are treated once for both (`Unobtrusive.isThere`, `Unobtrusive.observed`,
`Unobtrusive.settleBeforeDelete`). A handle that was opened belongs to the service that was asked
for, and what it is used for may rely on that (`Unobtrusive.lookUpThen`).
-/

namespace ServerSetup.Windows

variable {η ε α β : Type}

/-! ### Operations and the worlds they lead to -/

namespace Leads

variable {R : World η → World η → Prop} [IsPreorder (World η) R]
  {op : ExceptT ε (StateM (World η)) α} {f : α → ExceptT ε (StateM (World η)) β}
  {close : StateM (World η) Unit} {w w' : World η}

/-- To give an answer leads nowhere. -/
theorem pure (a : α) : Leads R (Pure.pure a : ExceptT ε (StateM (World η)) α) := fun w ↦ refl w

/-- To fail leads nowhere. -/
theorem throw (e : ε) : Leads R (MonadExcept.throw e : ExceptT ε (StateM (World η)) α) :=
  fun w ↦ refl w

/-- A sequence leads to where its second part leads from where its first part has led. What the
second part does may depend on how the first part has succeeded. -/
theorem bind (hop : Leads R op) (hf : ∀ w a w', op w = (.ok a, w') → R w' (f a w').2) :
    Leads R (op >>= f : ExceptT ε (StateM (World η)) β) := by
  intro w
  rw [StateExcept.bind_eq]
  have hw := hop w
  rcases hrun : op w with ⟨e | a, w₁⟩
  · rwa [hrun] at hw
  · rw [hrun] at hw
    exact trans_of R hw (hf w a w₁ hrun)

/-- A sequence of which the second part leads somewhere whatever comes of the first. -/
theorem andThen (hop : Leads R op) (hf : ∀ a, Leads R (f a)) :
    Leads R (op >>= f : ExceptT ε (StateM (World η)) β) :=
  bind hop fun _ a w' _ ↦ hf a w'

omit [IsPreorder (World η) R] in
/-- The text of an error does not show in the world. -/
theorem doing {fault : ε → Fault} {attempt : String} (hop : Leads R op) :
    Leads R (Windows.doing fault attempt op) := by
  intro w
  have hw := hop w
  rw [Windows.doing]
  rcases hrun : op w with ⟨e | a, w₁⟩
  · rwa [hrun] at hw
  · rwa [hrun] at hw

omit [IsPreorder (World η) R] in
/-- What is taken for missing does not show in the world. -/
theorem ifFound {op : RegistryM η α} (hop : Leads R op) : Leads R (Windows.ifFound op) := by
  intro w
  have hw := hop w
  rw [Windows.ifFound]
  rcases hrun : op w with ⟨e | a, w₁⟩
  · rw [hrun] at hw
    cases e
    all_goals exact hw
  · rwa [hrun] at hw

omit [IsPreorder (World η) R] in
/-- An error that is passed over does not show in the world. -/
theorem ignoring {op : ExceptT ε (StateM (World η)) Unit} (hop : Leads R op) :
    Leads R (Windows.ignoring op) := hop

/-- A handle is closed after its use. -/
theorem releasing {op : HostM η α} (hop : Leads R op) (hclose : Leads R close) :
    Leads R (Windows.releasing close op) := fun w ↦ trans_of R (hop w) (hclose _)

end Leads

/-! ### Operations that succeed -/

section

variable {op : ExceptT ε (StateM (World η)) α} {fault : ε → Fault} {attempt : String}
  {w w' : World η} {a : α}

/-- A call succeeds as a call of the host exactly if it succeeds. -/
theorem doing_eq_ok_iff : doing fault attempt op w = (.ok a, w') ↔ op w = (.ok a, w') := by
  rw [doing]
  rcases op w with ⟨e | b, w₁⟩
  · constructor
    · intro h
      cases h
    · intro h
      cases h
  · constructor
    · intro h
      cases h
      rfl
    · intro h
      cases h
      rfl

/-- What is asked for is found, or is said to be missing. -/
theorem ifFound_eq_ok {op : RegistryM η α} {found : Option α}
    (h : ifFound op w = (.ok found, w')) :
    (∃ a, found = some a ∧ op w = (.ok a, w')) ∨
      (found = none ∧ op w = (.error .notFound, w')) := by
  rw [ifFound] at h
  rcases hrun : op w with ⟨e | b, w₁⟩
  · rw [hrun] at h
    cases e
    all_goals cases h
    exact Or.inr ⟨rfl, rfl⟩
  · rw [hrun] at h
    cases h
    exact Or.inl ⟨b, rfl, rfl⟩

/-- The use of a handle succeeds as what it is used for succeeds, and the handle is closed. -/
theorem releasing_eq_ok_iff {close : StateM (World η) Unit} {op : HostM η α} :
    releasing close op w = (.ok a, w') ↔ ∃ w₁, op w = (.ok a, w₁) ∧ (close w₁).2 = w' := by
  rw [releasing]
  rcases op w with ⟨r, w₁⟩
  constructor
  · intro h
    cases h
    exact ⟨w₁, rfl, rfl⟩
  · rintro ⟨w₂, h, rfl⟩
    cases h
    rfl

variable {services : ServiceApi η} {manager : services.Manager} {name : String}
  {rights : List ServiceAccess}

/-- A service that was found was opened. -/
theorem lookUp_eq_some {service : services.Service}
    (h : lookUp manager name rights w = (.ok (some service), w')) :
    services.openService manager name rights w = (.ok service, w') := by
  rw [lookUp] at h
  rcases hopen : services.openService manager name rights w with ⟨e | found, w₁⟩
  · rw [hopen] at h
    dsimp only at h
    split at h
    · cases h
    · cases h
  · rw [hopen] at h
    cases h
    rfl

/-- A service that was not found is said to be missing. -/
theorem lookUp_eq_none (h : lookUp manager name rights w = (.ok none, w')) :
    ∃ e, services.openService manager name rights w = (.error e, w') ∧ e.isMissing = true := by
  rw [lookUp] at h
  rcases hopen : services.openService manager name rights w with ⟨e | found, w₁⟩
  · rw [hopen] at h
    dsimp only at h
    split at h
    · cases h
      exact ⟨e, rfl, ‹_›⟩
    · cases h
  · rw [hopen] at h
    cases h

end

/-! ### Calls that only look at a service, or stop it -/

/-- The calls that look at a service and its event source, or stop the service, respect a relation
between worlds. -/
structure Unobtrusive {sys : System η} (v : View sys) (name : String)
    (R : World η → World η → Prop) : Prop where
  connect : ∀ rights, Leads R (sys.services.connect rights)
  closeManager : ∀ manager, Leads R (sys.services.closeManager manager)
  openService : ∀ manager rights, Leads R (sys.services.openService manager name rights)
  closeService : ∀ service, v.SameName (v.serviceName service) name →
    Leads R (sys.services.closeService service)
  queryStatus : ∀ service, v.SameName (v.serviceName service) name →
    Leads R (sys.services.queryStatus service)
  stop : ∀ service, v.SameName (v.serviceName service) name → Leads R (sys.services.stop service)
  openKey : ∀ root path forWriting, Leads R (sys.registry.openKey root path forWriting)
  /-- Time may pass. -/
  clock : ∀ w clock, R w { w with clock := clock }

namespace Unobtrusive

variable {sys : System η} {v : View sys} {name : String} {R : World η → World η → Prop}
  (hR : Unobtrusive v name R)

include hR

/-- Looking a service up leads no further than its calls. -/
theorem lookUp (manager : sys.services.Manager) (rights : List ServiceAccess) :
    Leads R (lookUp manager name rights) := by
  intro w
  have hopen := hR.openService manager rights w
  rw [Windows.lookUp]
  rcases hrun : sys.services.openService manager name rights w with ⟨e | service, w₁⟩
  · rw [hrun] at hopen
    dsimp only
    split
    · exact hopen
    · exact hopen
  · rwa [hrun] at hopen

variable [IsPreorder (World η) R]

theorem withManager {rights : List ManagerAccess} {use : sys.services.Manager → HostM η α}
    (huse : ∀ manager, Leads R (use manager)) : Leads R (withManager sys.services rights use) :=
  (hR.connect rights).doing.andThen fun manager ↦ (huse manager).releasing (hR.closeManager manager)

theorem withService {service : sys.services.Service} {use : HostM η α}
    (hname : v.SameName (v.serviceName service) name) (huse : Leads R use) :
    Leads R (withService sys.services service use) :=
  huse.releasing (hR.closeService service hname)

/-- What an open service is used for knows which service it is. -/
theorem lookUpThen (hlaws : ServiceLaws v) {manager : sys.services.Manager}
    {rights : List ServiceAccess} {f : Option sys.services.Service → HostM η α}
    (hnone : Leads R (f none))
    (hsome : ∀ service, v.SameName (v.serviceName service) name → Leads R (f (some service))) :
    Leads R (Windows.lookUp manager name rights >>= f : HostM η α) := by
  refine (hR.lookUp manager rights).bind fun w found w' hfound ↦ ?_
  cases found with
  | none => exact hnone w'
  | some service => exact hsome service (hlaws.openService_name (lookUp_eq_some hfound)) w'

theorem isThere (hlaws : ServiceLaws v) (manager : sys.services.Manager) :
    Leads R (isThere manager name) :=
  hR.lookUpThen hlaws (.pure _) fun _ hname ↦ hR.withService hname (.pure _)

theorem hasEventSource (service : String) : Leads R (hasEventSource sys.registry service) :=
  (hR.openKey _ _ _).ifFound.doing.andThen fun _ ↦ .pure _

theorem observed (service : String) : Leads R (observed sys.registry service) := by
  intro w
  have hasked := hR.hasEventSource service w
  rw [Windows.observed]
  rcases hrun : Windows.hasEventSource sys.registry service w with ⟨e | found, w₁⟩
  · rwa [hrun] at hasked
  · rwa [hrun] at hasked

/-- The wait for a stop only looks, and lets time pass. -/
theorem awaitStopped {service : sys.services.Service}
    (hname : v.SameName (v.serviceName service) name) (pauseMs start queries : Nat) :
    Leads R (awaitStopped sys.services service pauseMs start queries) := by
  induction queries with
  | zero => exact .pure _
  | succ queries ih =>
    intro w
    rw [Windows.awaitStopped]
    show R w ((if stopTimeoutMs * 1000000 ≤ w.clock - start then _ else _ : ServiceM η Unit) w).2
    split
    · exact refl w
    · refine (hR.queryStatus service hname).andThen (fun state ↦ ?_) w
      split
      · exact .pure _
      · exact Leads.andThen (fun w ↦ hR.clock w _) fun _ ↦ ih

theorem settleBeforeDelete {service : sys.services.Service}
    (hname : v.SameName (v.serviceName service) name) (pauseMs queries : Nat) :
    Leads R (settleBeforeDelete sys.services service pauseMs queries) := by
  refine Leads.ignoring ((hR.queryStatus service hname).andThen fun state ↦ ?_)
  split
  · exact .pure _
  · refine (hR.stop service hname).andThen fun _ ↦ fun w ↦ ?_
    exact hR.awaitStopped hname pauseMs w.clock queries w

end Unobtrusive

end ServerSetup.Windows
