import ServerSetup.Text.Blank

/-!
# Splitting

A text is split at each of its breaks, as lists are split elsewhere. The pieces are made of the
characters of the text and have no break in them.
-/

namespace ServerSetup.Text

variable {α : Type} {p : α → Bool}

/-- Splitting at the breaks is the splitting of lists. -/
theorem splitWhere_eq_splitOnP (p : α → Bool) (cs : List α) : splitWhere p cs = cs.splitOnP p := by
  induction cs with
  | nil => exact List.splitOnP_nil.symm
  | cons c cs ih =>
    rw [splitWhere, List.splitOnP_cons_eq_if_modifyHead, ih]
    split
    · rfl
    · rcases hpieces : cs.splitOnP p with - | ⟨piece, pieces⟩
      · exact absurd hpieces (List.splitOnP_ne_nil p cs)
      · rfl

/-- A piece is made of the characters of the text, and has no break in it. -/
theorem mem_of_mem_splitWhere {cs piece : List α} (h : piece ∈ splitWhere p cs) :
    ∀ c ∈ piece, c ∈ cs ∧ p c = false := by
  induction cs generalizing piece with
  | nil =>
    rw [List.mem_singleton.1 h]
    exact fun c hc ↦ absurd hc List.not_mem_nil
  | cons d cs ih =>
    have hbehind {piece : List α} (h : piece ∈ splitWhere p cs) :
        ∀ c ∈ piece, c ∈ d :: cs ∧ p c = false :=
      fun c hc ↦ ⟨List.mem_cons_of_mem d (ih h c hc).1, (ih h c hc).2⟩
    rw [splitWhere] at h
    split at h
    · rcases List.mem_cons.1 h with rfl | h
      · exact fun c hc ↦ absurd hc List.not_mem_nil
      · exact hbehind h
    · next hd =>
      have hfirst : d ∈ d :: cs ∧ p d = false := ⟨List.mem_cons_self, Bool.not_eq_true _ ▸ hd⟩
      split at h
      · rw [List.mem_singleton.1 h]
        exact fun c hc ↦ List.mem_singleton.1 hc ▸ hfirst
      · next first pieces hsplit =>
        rcases List.mem_cons.1 h with rfl | h
        · intro c hc
          rcases List.mem_cons.1 hc with rfl | hc
          · exact hfirst
          · exact hbehind (hsplit ▸ List.mem_cons_self) c hc
        · exact hbehind (hsplit ▸ List.mem_cons_of_mem _ h)

end ServerSetup.Text
