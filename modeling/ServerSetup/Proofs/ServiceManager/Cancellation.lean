import ServerSetup.Proofs.Rehearsal
import ServerSetup.Proofs.ServiceManager.Requests

/-!
# What a cancellation prevents

A restart that can be cancelled looks whether it is before it stops the service and before it starts
it, and not while a turn is under way. So a request is made after a cancellation was asked for
exactly if this happened in a query of the same turn, before the request.

Each call is noted together with whether a cancellation had been asked for before it and after it.
`Linked` says that the notes of an operation follow on one another: between two calls nobody asks
for a cancellation. What a call does to the flag is left open. `Late` says that some request was
made with the flag up. `Overlooked` is the course that explains it: the flag goes up during a query,
and then there are only queries up to a request.

That the two are equivalent is proved for one turn that began with the flag down
(`Orderly.overlooked`), by looking at the last call during which the flag went up
(`Linked.exists_rise`). Before the request of a turn there are only queries (`Orderly.isQuery`), so
this call was one. The restart is two such turns, and the check before each makes sure that it
begins with the flag down.
-/

namespace ServerSetup

/-! ### Notes that follow on one another -/

namespace Linked

variable {c c' : Bool} {notes : List ControlNote} {n : ControlNote}

/-- Notes that follow on one another do so on both sides of any cut. -/
theorem split {front behind : List ControlNote} (h : Linked c (front ++ behind) c') :
    ∃ between, Linked c front between ∧ Linked between behind c' := by
  induction front generalizing c with
  | nil => exact ⟨c, rfl, h⟩
  | cons n front ih =>
    obtain ⟨between, hfront, hbehind⟩ := ih h.2
    exact ⟨between, ⟨h.1, hfront⟩, hbehind⟩

/-- Where a cancellation was asked for in the end, it was so from the start on, or there is a last
call during which this began. -/
theorem exists_rise (h : Linked c notes true) :
    (c = true ∧ ∀ n ∈ notes, n.cancelledAfter = true) ∨
      ∃ front q behind, notes = front ++ q :: behind ∧ q.cancelledBefore = false ∧
        q.cancelledAfter = true ∧ ∀ n ∈ behind, n.cancelledAfter = true := by
  induction notes generalizing c with
  | nil => exact .inl ⟨h, fun _ hn ↦ absurd hn List.not_mem_nil⟩
  | cons n notes ih =>
    obtain ⟨hafter, hall⟩ | ⟨front, q, behind, rfl, hq⟩ := ih h.2
    · rcases c with - | -
      · exact .inr ⟨[], n, notes, rfl, h.1, hafter, hall⟩
      · exact .inl ⟨rfl, List.forall_mem_cons.2 ⟨hafter, hall⟩⟩
    · exact .inr ⟨n :: front, q, behind, rfl, hq⟩

/-- Where a cancellation stays asked for, it is so when the next call is made. -/
theorem cancelledBefore_eq_true {front behind : List ControlNote}
    (h : Linked true (front ++ n :: behind) c') (hfront : ∀ n ∈ front, n.cancelledAfter = true) :
    n.cancelledBefore = true := by
  induction front with
  | nil => exact h.1
  | cons m front ih =>
    obtain ⟨hm, hfront⟩ := List.forall_mem_cons.1 hfront
    have hrest : Linked m.cancelledAfter (front ++ n :: behind) c' := h.2
    rw [hm] at hrest
    exact ih hrest hfront

end Linked

/-! ### Late requests -/

/-- A note of a request. -/
def ControlNote.IsRequest (n : ControlNote) : Prop := n.call.request?.isSome = true

/-- A note of a query. -/
def ControlNote.IsQuery (service : String) (n : ControlNote) : Prop :=
  ∃ answer, n.call = .status service answer

/-- A request was made after a cancellation was asked for. -/
def Late (notes : List ControlNote) : Prop :=
  ∃ n ∈ notes, n.IsRequest ∧ n.cancelledBefore = true

/-- A cancellation is asked for during a query, and there are only queries between this and a
request. -/
def Overlooked (service : String) (notes : List ControlNote) : Prop :=
  ∃ front q between n behind, notes = front ++ q :: (between ++ n :: behind) ∧
    q.IsQuery service ∧ q.cancelledBefore = false ∧ q.cancelledAfter = true ∧
    (∀ m ∈ between, m.IsQuery service ∧ m.cancelledAfter = true) ∧ n.IsRequest

namespace Overlooked

variable {service : String} {notes more : List ControlNote} {c c' : Bool}

theorem append_left (h : Overlooked service notes) : Overlooked service (more ++ notes) := by
  obtain ⟨front, q, between, n, behind, rfl, h⟩ := h
  exact ⟨more ++ front, q, between, n, behind, by simp, h⟩

theorem append_right (h : Overlooked service notes) : Overlooked service (notes ++ more) := by
  obtain ⟨front, q, between, n, behind, rfl, h⟩ := h
  exact ⟨front, q, between, n, behind ++ more, by simp, h⟩

/-- Where a cancellation was overlooked, a request came late. -/
theorem late (h : Overlooked service notes) (hlinked : Linked c notes c') : Late notes := by
  obtain ⟨front, q, between, n, behind, rfl, -, -, hafter, hbetween, hrequest⟩ := h
  obtain ⟨_, -, hq⟩ := hlinked.split
  have hrest : Linked q.cancelledAfter (between ++ n :: behind) c' := hq.2
  rw [hafter] at hrest
  exact ⟨n, by simp, hrequest, hrest.cancelledBefore_eq_true fun m hm ↦ (hbetween m hm).2⟩

end Overlooked

/-- Before the request of a turn there are only queries. -/
theorem Orderly.isQuery {t : Turn} {service : String} {goal : RunState} {limited : Bool}
    {result : Except Halt Unit} {front behind : List ControlNote} {n : ControlNote}
    (h : Orderly [t] service goal limited ((front ++ n :: behind).map ControlNote.call) result)
    (hrequest : n.IsRequest) : ∀ m ∈ front, m.IsQuery service := by
  intro m hm
  obtain ⟨asked, hasked⟩ := Option.isSome_iff_exists.1 hrequest
  -- The request is the only one of the turn, so those before it number none.
  have hlength := h.requests.length_le
  rw [List.map_append, List.map_cons, ControlCall.requests_append, List.length_append,
    show ControlCall.requests (n.call :: behind.map ControlNote.call) =
      asked :: ControlCall.requests (behind.map ControlNote.call) from
        List.filterMap_cons_some hasked, List.length_cons, List.length_singleton] at hlength
  have hnone : ControlCall.requests (front.map ControlNote.call) = [] :=
    List.length_eq_zero_iff.1 (by omega)
  have hquery := List.filterMap_eq_nil_iff.1 hnone m.call (List.mem_map_of_mem hm)
  have hservice := h.service_eq m.call (List.mem_map_of_mem (by simp [hm]))
  rcases hcall : m.call with ⟨asked, answer⟩ | ⟨asked, answer⟩ | ⟨asked, answer⟩
  · rw [hcall] at hservice
    rw [ControlNote.IsQuery, hcall, ← hservice]
    exact ⟨answer, rfl⟩
  · rw [hcall] at hquery
    cases hquery
  · rw [hcall] at hquery
    cases hquery

/-- **A late request of a turn that began in time is one where a cancellation was overlooked.** -/
theorem Orderly.overlooked {t : Turn} {service : String} {goal : RunState} {limited : Bool}
    {result : Except Halt Unit} {notes : List ControlNote} {c : Bool}
    (h : Orderly [t] service goal limited (notes.map ControlNote.call) result)
    (hlinked : Linked false notes c) (hlate : Late notes) : Overlooked service notes := by
  obtain ⟨n, hn, hrequest, hbefore⟩ := hlate
  obtain ⟨earlier, behind, rfl⟩ := List.append_of_mem hn
  have hqueries := h.isQuery hrequest
  obtain ⟨between, hearlier, hn⟩ := hlinked.split
  obtain rfl : between = true := hn.1.symm.trans hbefore
  -- The last call before the request during which the cancellation began is a query, as all of them
  -- are.
  obtain ⟨hfalse, -⟩ | ⟨front, q, between, rfl, hq, hafter, hbetween⟩ := hearlier.exists_rise
  · cases hfalse
  · obtain ⟨-, hrest⟩ := List.forall_mem_append.1 hqueries
    obtain ⟨hquery, hrest⟩ := List.forall_mem_cons.1 hrest
    exact ⟨front, q, between, n, behind, by simp, hquery, hq, hafter,
      fun m hm ↦ ⟨hrest m hm, hbetween m hm⟩, hrequest⟩

/-! ### Restarts that can be cancelled -/

namespace ServiceManager

theorem checkCancelled_eq {η : Type} (service : String) (w : World η) :
    (checkCancelled service : SetupM η Unit) w =
      if w.cancelled = true then (.error (.failed (.cancelled service)), w) else (.ok (), w) := by
  show (ite (w.cancelled = true) _ _ : SetupM η Unit) w = _
  split <;> rfl

section

variable {η : Type} (m : ServiceManager η) (service : String) (w : World η)

/-- What a restart that can be cancelled does: a check, a turn, a check and a turn. -/
theorem restartUnlessCancelled_eq : m.restartUnlessCancelled service w =
    if w.cancelled = true then (.error (.failed (.cancelled service)), w)
    else match m.stop service w with
      | (.error halt, w₁) => (.error halt, w₁)
      | (.ok (), w₁) =>
        if w₁.cancelled = true then (.error (.failed (.cancelled service)), w₁)
        else m.start service w₁ := by
  rw [restartUnlessCancelled, StateExcept.bind_eq, checkCancelled_eq]
  by_cases hw : w.cancelled = true
  · rw [if_pos hw, if_pos hw]
  · rw [if_neg hw, if_neg hw]
    dsimp only
    rw [StateExcept.bind_eq]
    rcases m.stop service w with ⟨halt | ⟨⟩, w₁⟩
    · rfl
    · dsimp only
      rw [StateExcept.bind_eq, checkCancelled_eq]
      by_cases hw₁ : w₁.cancelled = true
      · rw [if_pos hw₁, if_pos hw₁]
      · rw [if_neg hw₁, if_neg hw₁]

/-- What is noted in a restart that can be cancelled: nothing if it is cancelled at once, and else
what is noted in two turns, the second of which only begins if it is not cancelled by then. -/
theorem exists_notes : ∃ notes, m.noted.restartUnlessCancelled service (w.noting []) =
      ((m.restartUnlessCancelled service w).1,
        (m.restartUnlessCancelled service w).2.noting notes) ∧
    Linked w.cancelled notes (m.restartUnlessCancelled service w).2.cancelled ∧
    (w.cancelled = true → notes = []) ∧ (Late notes → Overlooked service notes) := by
  rw [restartUnlessCancelled_eq, restartUnlessCancelled_eq,
    show (w.noting []).cancelled = w.cancelled from rfl]
  rcases hw : w.cancelled with - | -
  · rw [if_neg Bool.false_ne_true, if_neg Bool.false_ne_true]
    have hwatches (t : Turn) : Watches (t.run m.noted service) (t.run m service) _ :=
      Turn.watches_run
    obtain ⟨notes, hrun, hlinked, hcourse⟩ := hwatches .stop w []
    rw [show m.noted.stop service (w.noting []) = _ from hrun]
    rw [hw] at hlinked
    have hlate : Late notes → Overlooked service notes := hcourse.orderly.overlooked hlinked
    have hstop : Turn.stop.run m service w = m.stop service w := rfl
    rw [hstop] at hlinked ⊢
    rcases hrest : m.stop service w with ⟨halt | ⟨⟩, w₁⟩
    · rw [hrest] at hlinked
      exact ⟨notes, rfl, hlinked, nofun, hlate⟩
    · rw [hrest] at hlinked
      dsimp only at hlinked ⊢
      rw [show (w₁.noting ([] ++ notes)).cancelled = w₁.cancelled from rfl]
      rcases hw₁ : w₁.cancelled with - | -
      · rw [if_neg Bool.false_ne_true, if_neg Bool.false_ne_true]
        obtain ⟨more, hrun', hlinked', hcourse'⟩ := hwatches .start w₁ notes
        refine ⟨notes ++ more, hrun', hlinked.append hlinked', nofun, ?_⟩
        rw [hw₁] at hlinked'
        -- Each turn begins without a cancellation, so a late request is late within its turn.
        rintro ⟨n, hn, hrequest⟩
        rcases List.mem_append.1 hn with hn | hn
        · exact (hlate ⟨n, hn, hrequest⟩).append_right
        · exact (hcourse'.orderly.overlooked hlinked' ⟨n, hn, hrequest⟩).append_left
      · exact ⟨notes, rfl, hlinked, nofun, hlate⟩
  · exact ⟨[], rfl, hw.symm, fun _ ↦ rfl, fun ⟨_, hn, _⟩ ↦ absurd hn List.not_mem_nil⟩

end

/-- **A request of a restart is late exactly where a cancellation was overlooked.** Nothing is asked
of the control if a cancellation was asked for before the restart, and no request is made after one
was asked for during a request, or during a query behind which there is no request of the same
turn. -/
theorem late_iff_overlooked {η : Type} (m : ServiceManager η) (service : String) (w : World η) :
    let r := ControlOperation.restartUnlessCancelled.watch m service w
    m.restartUnlessCancelled service w = (r.result, r.world) ∧
      (w.cancelled = true → r.notes = []) ∧ (Late r.notes ↔ Overlooked service r.notes) := by
  obtain ⟨notes, hrun, hlinked, hnone, hlate⟩ := m.exists_notes service w
  have hwatch : ControlOperation.restartUnlessCancelled.watch m service w =
      ⟨notes, (m.restartUnlessCancelled service w).1, (m.restartUnlessCancelled service w).2⟩ := by
    rw [ControlOperation.watch, show ControlOperation.restartUnlessCancelled.run m.noted service
      (w.noting []) = _ from hrun]
    rfl
  rw [hwatch]
  exact ⟨rfl, hnone, hlate, fun hoverlooked ↦ hoverlooked.late hlinked⟩

end ServiceManager

namespace Rehearsal

/-- A control during whose queries a cancellation is asked for. -/
def cancellingControl : ServiceControl (Machine Unit) where
  status service := do
    modify fun w ↦ { w with cancelled := true }
    manager.control.status service
  start := manager.control.start
  stop := manager.control.stop

/-- A service is stopped although a cancellation was asked for before. -/
theorem stop_overlooked :
    let r := ControlOperation.restartUnlessCancelled.watch
      { manager with control := cancellingControl, patience := 2 } "svc"
      { worldWith [] with host := { states := [("svc", .running)], notes := () } }
    r.notes =
      [⟨.status "svc" (.ok (some .running)), false, true⟩, ⟨.stop "svc" (.ok ()), true, true⟩,
        ⟨.status "svc" (.ok (some .stopPending)), true, true⟩,
        ⟨.status "svc" (.ok (some .stopped)), true, true⟩] ∧
      r.result = .error (.failed (.cancelled "svc")) ∧ Late r.notes := by
  refine ⟨rfl, rfl, ⟨.stop "svc" (.ok ()), true, true⟩, ?_, rfl, rfl⟩
  exact List.mem_cons_of_mem _ List.mem_cons_self

end Rehearsal

end ServerSetup
