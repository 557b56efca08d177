import ServerSetup.ServiceManager.Phase

/-!
# What a successful operation has done

Operations are sequences of steps, and each step is a call of the host, a check or a change of the
world. The lemmas of this module take a successful run apart: a sequence succeeds exactly if every
step succeeds in the world that the step before it left.

There are three kinds of sequences. Calls of the host may fail with a fault of the host, and
operations of the tool with an error of their own; both are state and exception at once, so what
they have in common is said for `ExceptT` over `StateM` (`StateExcept`). A failure ends the sequence
and keeps the world as it was left. Steps that cannot fail are lifted into the others.

The equivalences are used from right to left as well: to show that an operation succeeds it is
enough to name the answer and the world after each step. That the error of a call says in which
operation it came up is part of `call_bind_eq`.
-/

namespace ServerSetup

namespace World

variable {η : Type}

/-- The world in which a service has entered a phase. -/
def entering (w : World η) (service : String) (phase : Transition) : World η :=
  { w with phases := w.phases.enter service phase }

/-- The world in which a service has left its phase. -/
def leaving (w : World η) (service : String) : World η :=
  { w with phases := w.phases.leave service }

/-- A service that leaves the phase it has just entered was never there. -/
theorem leaving_entering {w : World η} {service : String} {phase : Transition}
    (h : w.phases.of? service = none) : (w.entering service phase).leaving service = w := by
  have hleave : (w.phases.enter service phase).leave service = w.phases := by
    rw [Phases.enter, Phases.leave, List.filter_cons_of_neg (by simp), List.filter_eq_self]
    intro x hx
    have hne := List.lookup_eq_none_iff.1 h x hx
    simpa [bne, Bool.beq_comm] using hne
  rw [entering, leaving, hleave]

end World

/-! ### Steps that change a state and may fail -/

namespace StateExcept

variable {ε σ α β : Type} {s s' : σ}

/-- A sequence goes on from the outcome of its first step. -/
theorem bind_eq_bindCont (op : ExceptT ε (StateM σ) α) (f : α → ExceptT ε (StateM σ) β) :
    (op >>= f) = fun s ↦ (ExceptT.bindCont f (op s).1 : StateM σ (Except ε β)) (op s).2 := rfl

/-- A sequence ends where its first step fails. -/
theorem bind_eq (op : ExceptT ε (StateM σ) α) (f : α → ExceptT ε (StateM σ) β) :
    (op >>= f) s = match op s with
      | (.ok a, s') => f a s'
      | (.error e, s') => (.error e, s') := by
  rw [bind_eq_bindCont]
  dsimp only
  rcases op s with ⟨e | a, s'⟩ <;> rfl

/-- **A sequence succeeds exactly if each step succeeds in turn.** -/
theorem bind_eq_ok_iff {op : ExceptT ε (StateM σ) α} {f : α → ExceptT ε (StateM σ) β} {b : β} :
    (op >>= f) s = (.ok b, s') ↔ ∃ a s₁, op s = (.ok a, s₁) ∧ f a s₁ = (.ok b, s') := by
  rw [bind_eq]
  rcases op s with ⟨e | a, s₁⟩
  · constructor
    · intro h
      cases h
    · rintro ⟨a, s₂, h, -⟩
      cases h
  · constructor
    · intro h
      exact ⟨a, s₁, rfl, h⟩
    · rintro ⟨a', s₂, h, hf⟩
      cases h
      exact hf

/-- A step that cannot fail is taken, and the rest goes on from there. -/
theorem lift_bind_eq (op : StateM σ α) (f : α → ExceptT ε (StateM σ) β) :
    ((liftM op : ExceptT ε (StateM σ) α) >>= f) s = f (op s).1 (op s).2 := rfl

/-- What an outcome comes to if its failure is caught. -/
def caught (handle : ε → ExceptT ε (StateM σ) α) : Except ε α → StateM σ (Except ε α)
  | .ok a => pure (.ok a)
  | .error e => handle e

/-- An operation whose failure is caught goes on from its outcome. -/
theorem tryCatch_eq_caught (op : ExceptT ε (StateM σ) α) (handle : ε → ExceptT ε (StateM σ) α) :
    tryCatch op handle = fun s ↦ caught handle (op s).1 (op s).2 := by
  funext s
  show (match (op s).1 with
    | .ok a => (pure (.ok a) : StateM σ (Except ε α))
    | .error e => handle e) (op s).2 = _
  rcases op s with ⟨e | a, s'⟩ <;> rfl

/-- A failure may be caught. -/
theorem tryCatch_eq (op : ExceptT ε (StateM σ) α) (handle : ε → ExceptT ε (StateM σ) α) :
    tryCatch op handle s = match op s with
      | (.ok a, s') => (.ok a, s')
      | (.error e, s') => handle e s' := by
  rw [tryCatch_eq_caught]
  dsimp only
  rcases op s with ⟨e | a, s'⟩ <;> rfl

end StateExcept

namespace SetupM

variable {η α β : Type} {w w' : World η} {a a' : α} {b : β}

/-- An answer is given without changing the world. -/
theorem pure_eq_ok_iff : (pure a : SetupM η α) w = (.ok a', w') ↔ a = a' ∧ w = w' := by
  constructor
  · intro h
    cases h
    exact ⟨rfl, rfl⟩
  · rintro ⟨rfl, rfl⟩
    rfl

theorem fail_ne_ok {e : OperationError} : (fail e : SetupM η α) w ≠ (.ok a, w') := by
  intro h
  cases h

/-- A sequence ends where its first step fails. -/
theorem bind_eq (op : SetupM η α) (f : α → SetupM η β) :
    (op >>= f) w = ExceptT.bindCont f (op w).1 (op w).2 := rfl

/-- A step may read the world. -/
theorem get_bind_eq (f : World η → SetupM η α) : (get >>= f) w = f w w := rfl

/-- **An operation succeeds exactly if each step of it succeeds in turn.** -/
theorem bind_eq_ok_iff {op : SetupM η α} {f : α → SetupM η β} :
    (op >>= f) w = (.ok b, w') ↔ ∃ a w₁, op w = (.ok a, w₁) ∧ f a w₁ = (.ok b, w') :=
  StateExcept.bind_eq_ok_iff

/-- A change of the world that cannot fail, as a step of an operation. -/
theorem lift_eq_ok {op : StateM (World η) α} (h : op w = (a, w')) :
    (monadLift op : SetupM η α) w = (.ok a, w') := by
  show (Except.ok (op w).1, (op w).2) = _
  rw [h]

theorem lift_bind_eq {op : StateM (World η) α} {f : α → SetupM η β} (h : op w = (a, w')) :
    ((monadLift op : SetupM η α) >>= f) w = f a w' := by
  show ExceptT.bindCont f (.ok (op w).1) (op w).2 = _
  rw [h]
  rfl

/-- A call of the host succeeds as a step exactly if it succeeds. -/
theorem call_eq_ok_iff {wrap : Fault → OperationError} {op : HostM η α} :
    call wrap op w = (.ok a, w') ↔ op w = (.ok a, w') := by
  rw [call]
  rcases op w with ⟨f | b, w₁⟩
  · constructor
    · intro h
      cases h
    · intro h
      cases h
  · constructor
    · intro h
      cases h
      rfl
    · intro h
      cases h
      rfl

/-- A call of the host, and what comes of its failure: it is wrapped up and ends the operation. -/
theorem call_bind_eq (wrap : Fault → OperationError) (op : HostM η α) (f : α → SetupM η β) :
    (call wrap op >>= f) w = match op w with
      | (.ok a, w') => f a w'
      | (.error why, w') => (.error (.failed (wrap why)), w') := by
  rw [bind_eq, call]
  rcases op w with ⟨why | a, w'⟩
  · rfl
  · rfl

/-- An attempt on the disk is passed over, whatever comes of it. -/
theorem attempt_store_eq (op : StoreM α) :
    attempt (store op) w = (.ok (), { w with disk := (op w.disk).2 }) := by
  rw [attempt, store]
  rcases op w.disk with ⟨e | a, disk⟩
  · rfl
  · rfl

/-- A check that does not look at the world, and what comes of its failure. -/
theorem ofExcept_bind_eq (r : Except OperationError α) (f : α → SetupM η β) :
    (ofExcept r >>= f) w = match r with
      | .ok a => f a w
      | .error e => (.error (.failed e), w) := by
  rcases r with e | a
  · rfl
  · rfl

/-- Such a check succeeds without changing the world. -/
theorem ofExcept_eq_ok_iff {r : Except OperationError α} :
    ofExcept r w = (.ok a, w') ↔ r = .ok a ∧ w = w' := by
  rcases r with e | b
  · constructor
    · intro h
      exact absurd h fail_ne_ok
    · rintro ⟨h, -⟩
      cases h
  · rw [Except.ok.injEq]
    exact pure_eq_ok_iff

/-- An operation in a phase succeeds exactly if the service is in no phase and the operation
succeeds. -/
theorem inPhase_eq_ok_iff {service : String} {phase : Transition} {op : SetupM η α} :
    inPhase service phase op w = (.ok a, w') ↔ w.phases.of? service = none ∧
      ∃ w₁, op (w.entering service phase) = (.ok a, w₁) ∧ w' = w₁.leaving service := by
  rcases hphase : w.phases.of? service with - | current
  · have hrun : inPhase service phase op w = ((op (w.entering service phase)).1,
        (op (w.entering service phase)).2.leaving service) := by
      rw [inPhase, hphase]
      rfl
    rw [hrun]
    rcases op (w.entering service phase) with ⟨r, w₁⟩
    constructor
    · intro h
      cases h
      exact ⟨rfl, w₁, rfl, rfl⟩
    · rintro ⟨-, w₂, h, rfl⟩
      cases h
      rfl
  · constructor
    · intro h
      rw [inPhase, hphase] at h
      cases h
    · rintro ⟨h, -⟩
      cases h

end SetupM

end ServerSetup
