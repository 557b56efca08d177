import ServerSetup.Path.Segment

/-!
# The ends of paths

Dropping the separators at the end of a path takes separators away and nothing else, and all of them
if the character before them is no colon. What is left has nothing more to drop. The path above is
never empty.

A path is worked on from its end, so the function that drops separators goes along the reversed
text, and most facts are stated for that first. It stops at the root, which is a single separator,
and at a volume root, which keeps the one behind the colon. These two are why the character before
the separators has to be mentioned at all.
-/

namespace ServerSetup.Path

variable {cs seps : List Char} {c : Char} {path parent : String}

/-! ### Separators at the end -/

theorem dropFinalSeparators_eq_self (hc : isSeparator c = false) (cs : List Char) :
    dropFinalSeparators (c :: cs) = c :: cs := by
  cases cs with
  | nil => rfl
  | cons d cs => rw [dropFinalSeparators, hc, Bool.false_and, if_neg Bool.false_ne_true]

theorem isSeparator_ne_colon (hc : isSeparator c = true) : c ≠ ':' := by
  rintro rfl
  exact absurd hc (by decide)

/-- Separators are dropped up to a character that is neither one of them nor a colon. -/
theorem dropFinalSeparators_append (hseps : ∀ s ∈ seps, isSeparator s = true)
    (hc : isSeparator c = false) (hcolon : c ≠ ':') (cs : List Char) :
    dropFinalSeparators (seps ++ c :: cs) = c :: cs := by
  induction seps with
  | nil => exact dropFinalSeparators_eq_self hc cs
  | cons s seps ih =>
    have hs : isSeparator s = true := hseps s List.mem_cons_self
    have hrest := ih fun s hs ↦ hseps s (List.mem_cons_of_mem _ hs)
    -- what comes next is the character or one more separator, and no colon in both cases
    cases seps with
    | nil =>
      rw [List.singleton_append, dropFinalSeparators, hs, bne_iff_ne.2 hcolon]
      exact hrest
    | cons s' seps =>
      have hs' := isSeparator_ne_colon (hseps s' (List.mem_cons_of_mem _ List.mem_cons_self))
      rw [List.cons_append, List.cons_append, dropFinalSeparators, hs, bne_iff_ne.2 hs']
      exact hrest

/-- What is left has nothing more to drop, seen from its end. -/
theorem dropFinalSeparators_dropFinalSeparators (cs : List Char) :
    dropFinalSeparators (dropFinalSeparators cs) = dropFinalSeparators cs := by
  fun_induction dropFinalSeparators cs with
  | case1 a b rest hdrop ih => exact ih
  | case2 a b rest hkeep => rw [dropFinalSeparators, if_neg hkeep]
  | case3 cs hshort =>
    match cs with
    | [] => rfl
    | [a] => rfl
    | a :: b :: rest => exact absurd rfl (hshort a b rest)

/-- What is dropped is separators. -/
theorem exists_append_dropFinalSeparators (cs : List Char) : ∃ seps,
    cs = seps ++ dropFinalSeparators cs ∧ ∀ s ∈ seps, isSeparator s = true := by
  fun_induction dropFinalSeparators cs with
  | case1 a b rest hdrop ih =>
    obtain ⟨seps, hrest, hseps⟩ := ih
    rw [Bool.and_eq_true] at hdrop
    refine ⟨a :: seps, by rw [List.cons_append, ← hrest], ?_⟩
    rintro s (- | ⟨_, hs⟩)
    · exact hdrop.1
    · exact hseps s hs
  | case2 a b rest hkeep => exact ⟨[], rfl, List.forall_mem_nil _⟩
  | case3 cs hshort => exact ⟨[], rfl, List.forall_mem_nil _⟩

/-- Something is left of a path that is not empty. -/
theorem dropFinalSeparators_ne_nil (h : cs ≠ []) : dropFinalSeparators cs ≠ [] := by
  fun_induction dropFinalSeparators cs with
  | case1 a b rest hdrop ih => exact ih (List.cons_ne_nil _ _)
  | case2 a b rest hkeep => exact h
  | case3 cs hshort => exact h

theorem trimSeparators_trimSeparators (cs : List Char) :
    trimSeparators (trimSeparators cs) = trimSeparators cs := by
  rw [trimSeparators, trimSeparators, List.reverse_reverse, dropFinalSeparators_dropFinalSeparators]

/-- Separators behind a character that is neither one of them nor a colon are all dropped. -/
theorem trimSeparators_append (hlast : cs.getLast? = some c) (hc : isSeparator c = false)
    (hcolon : c ≠ ':') (hseps : ∀ s ∈ seps, isSeparator s = true) :
    trimSeparators (cs ++ seps) = cs := by
  obtain ⟨front, rfl⟩ := List.getLast?_eq_some_iff.1 hlast
  rw [trimSeparators, List.reverse_append, List.reverse_concat, dropFinalSeparators_append
    (fun s hs ↦ hseps s (List.mem_reverse.1 hs)) hc hcolon, ← List.reverse_concat,
    List.reverse_reverse]

/-- A path is what is left of it with separators behind. -/
theorem exists_trimSeparators_append (cs : List Char) : ∃ seps,
    cs = trimSeparators cs ++ seps ∧ ∀ s ∈ seps, isSeparator s = true := by
  obtain ⟨seps, hcs, hseps⟩ := exists_append_dropFinalSeparators cs.reverse
  refine ⟨seps.reverse, ?_, fun s hs ↦ hseps s (List.mem_reverse.1 hs)⟩
  rw [trimSeparators, ← List.reverse_append, ← hcs, List.reverse_reverse]

/-- A path keeps its first character. -/
theorem head?_trimSeparators (cs : List Char) : (trimSeparators cs).head? = cs.head? := by
  by_cases hnil : cs = []
  · rw [hnil]
    rfl
  · have hne : trimSeparators cs ≠ [] := by
      rw [trimSeparators, Ne, List.reverse_eq_nil_iff]
      exact dropFinalSeparators_ne_nil (by simpa using hnil)
    obtain ⟨seps, hcs, -⟩ := exists_trimSeparators_append cs
    obtain ⟨d, ds, htrim⟩ := List.exists_cons_of_ne_nil hne
    rw [htrim] at hcs
    rw [htrim, hcs]
    rfl

/-! ### The path above -/

/-- The path above is never empty. -/
theorem above?_ne_empty (h : above? path = some parent) : parent ≠ "" := by
  obtain ⟨rev, hrev, rfl⟩ := Option.map_eq_some_iff.1 h
  have hne : rev ≠ [] := by
    rw [parentOfReversed] at hrev
    split at hrev
    · cases hrev
    · split at hrev
      · cases hrev
      · split at hrev
        · cases hrev
          exact List.cons_ne_nil _ _
        · split at hrev
          · cases hrev
          · cases hrev
            exact List.cons_ne_nil _ _
  rw [Ne, ← String.toList_eq_nil_iff, String.toList_ofList, List.reverse_eq_nil_iff]
  exact hne

end ServerSetup.Path
