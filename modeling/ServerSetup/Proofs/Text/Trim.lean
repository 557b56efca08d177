import Mathlib.Data.List.DropRight
import ServerSetup.Proofs.Text.Split

/-!
# Trimming and words

Trimming removes blank characters at the two ends and nothing else: a text is its trimmed form with
blank characters around it, and a text with other characters at both ends is left as it is. Words
are made of the characters of the text that they are cut from.

Lines of records, arguments and the output of other programs are trimmed in many places, mostly
before something else is done with them. The lemmas therefore say how trimming goes together with
the rest: what the first and the last character are afterwards, that trimming stops at a character
that is not blank and does not reach what stands behind it (`trimStart_append`, `trimEnd_append`),
and that a second time makes no difference (`trim_trim`).
-/

namespace ServerSetup.Text

/-- Nothing is trimmed at the start of a text that does not start with a blank. -/
theorem trimStart_eq_self {cs : List Char} (h : ∀ c ∈ cs.head?, isBlank c = false) :
    trimStart cs = cs := by
  cases cs with
  | nil => rfl
  | cons c cs => rw [trimStart, List.dropWhile_cons_of_neg (by simp [h c rfl])]

/-- Nothing is trimmed at the end of a text that does not end with one. -/
theorem trimEnd_eq_self {cs : List Char} (h : ∀ c ∈ cs.getLast?, isBlank c = false) :
    trimEnd cs = cs := by
  rw [← List.head?_reverse] at h
  have hrev : trimStart cs.reverse = cs.reverse := trimStart_eq_self h
  rw [trimEnd, dropEndWhile, show cs.reverse.dropWhile isBlank = cs.reverse from hrev,
    List.reverse_reverse]

/-- What trimming at the end removes is blank. -/
theorem exists_trimEnd_append (cs : List Char) :
    ∃ blanks, cs = trimEnd cs ++ blanks ∧ ∀ c ∈ blanks, isBlank c = true := by
  refine ⟨(cs.reverse.takeWhile isBlank).reverse, ?_, ?_⟩
  · rw [trimEnd, dropEndWhile, ← List.reverse_append, List.takeWhile_append_dropWhile,
      List.reverse_reverse]
  · intro c hc
    exact List.mem_takeWhile_imp (List.mem_reverse.1 hc)

/-- What trimming at the start removes is blank. -/
theorem exists_append_trimStart (cs : List Char) :
    ∃ blanks, cs = blanks ++ trimStart cs ∧ ∀ c ∈ blanks, isBlank c = true :=
  ⟨cs.takeWhile isBlank, List.takeWhile_append_dropWhile.symm,
    fun _ hc ↦ List.mem_takeWhile_imp hc⟩

/-- A text that starts with another character starts with it after trimming. -/
theorem head?_trim {cs : List Char} {c : Char} (h : cs.head? = some c) (hc : isBlank c = false) :
    (trim cs).head? = some c := by
  have hstart : trimStart cs = cs := by
    refine trimStart_eq_self fun d hd ↦ ?_
    rw [h, Option.mem_some_iff] at hd
    rwa [← hd]
  obtain ⟨blanks, hcs, hblanks⟩ := exists_trimEnd_append cs
  rw [trim, hstart]
  rcases htrim : trimEnd cs with - | ⟨d, ds⟩
  · rw [htrim, List.nil_append] at hcs
    rw [hcs] at h
    rw [hblanks c (List.mem_of_head? h)] at hc
    cases hc
  · rw [hcs, htrim] at h
    exact h

/-- A trimmed text does not end in a blank character. -/
theorem isBlank_getLast?_trim (cs : List Char) : ∀ c ∈ (trim cs).getLast?, isBlank c = false := by
  intro c hc
  rw [trim, trimEnd, dropEndWhile, List.getLast?_reverse] at hc
  have hhead := List.head?_dropWhile_not isBlank (trimStart cs).reverse
  rw [Option.mem_def.1 hc] at hhead
  simpa using hhead

/-- Nor does it start with one. -/
theorem isBlank_head?_trim (cs : List Char) : ∀ c ∈ (trim cs).head?, isBlank c = false := by
  intro c hc
  obtain ⟨blanks, hcs, -⟩ := exists_trimEnd_append (trimStart cs)
  have hstart : (trimStart cs).head? = some c := by
    rw [hcs, ← trim]
    obtain ⟨rest, hrest⟩ := List.head?_eq_some_iff.1 hc
    rw [hrest]
    rfl
  have hblank := List.head?_dropWhile_not isBlank cs
  rw [show cs.dropWhile isBlank = trimStart cs from rfl, hstart] at hblank
  simpa using hblank

/-- A text with other characters at both ends is left as it is. -/
theorem trim_eq_self {cs : List Char} (hhead : ∀ c ∈ cs.head?, isBlank c = false)
    (hlast : ∀ c ∈ cs.getLast?, isBlank c = false) : trim cs = cs := by
  rw [trim, trimStart_eq_self hhead, trimEnd_eq_self hlast]

/-- A text that is left as it is does not start with a blank. -/
theorem isBlank_head?_of_trim {cs : List Char} (h : trim cs = cs) :
    ∀ c ∈ cs.head?, isBlank c = false := by
  have hhead := isBlank_head?_trim cs
  rwa [h] at hhead

theorem isBlank_getLast?_of_trim {cs : List Char} (h : trim cs = cs) :
    ∀ c ∈ cs.getLast?, isBlank c = false := by
  have hlast := isBlank_getLast?_trim cs
  rwa [h] at hlast

/-- A text between other characters than blanks has nothing to trim. -/
theorem trim_enclosed {a b : Char} (ha : isBlank a = false) (hb : isBlank b = false)
    (cs : List Char) : trim (a :: cs ++ [b]) = a :: cs ++ [b] := by
  refine trim_eq_self (fun c hc ↦ ?_) fun c hc ↦ ?_
  · cases hc
    exact ha
  · rw [List.getLast?_concat] at hc
    cases hc
    exact hb

/-- A text that ends with another character than a blank ends with it after trimming. -/
theorem getLast?_trim {cs : List Char} {c : Char} (h : cs.getLast? = some c)
    (hc : isBlank c = false) : (trim cs).getLast? = some c := by
  obtain ⟨blanks, hcs, hblanks⟩ := exists_append_trimStart cs
  have hstart : (trimStart cs).getLast? = some c := by
    rcases hnil : trimStart cs with - | ⟨d, ds⟩
    · rw [hnil, List.append_nil] at hcs
      rw [hcs] at h
      rw [hblanks c (List.mem_of_getLast? h)] at hc
      cases hc
    · rwa [hcs, hnil, List.getLast?_append_of_ne_nil _ (List.cons_ne_nil _ _)] at h
  rw [trim, trimEnd_eq_self, hstart]
  intro d hd
  rwa [← Option.some.inj (hstart.symm.trans hd)]

/-- Trimming a trimmed text changes nothing. -/
theorem trim_trim (cs : List Char) : trim (trim cs) = trim cs :=
  trim_eq_self (isBlank_head?_trim cs) (isBlank_getLast?_trim cs)

/-- Trimming leaves only characters of the text. -/
theorem mem_of_mem_trim {cs : List Char} {c : Char} (h : c ∈ trim cs) : c ∈ cs := by
  obtain ⟨front, hfront, -⟩ := exists_append_trimStart cs
  obtain ⟨behind, hbehind, -⟩ := exists_trimEnd_append (trimStart cs)
  rw [hfront, hbehind]
  exact List.mem_append_right _ (List.mem_append_left _ h)

/-- Trimming does not reach beyond a character that is not blank. -/
theorem trimStart_append {cs : List Char} (h : ∃ c ∈ cs, isBlank c = false) (behind : List Char) :
    trimStart (cs ++ behind) = trimStart cs ++ behind := by
  obtain ⟨c, hc, hblank⟩ := h
  have hne : (cs.dropWhile isBlank).isEmpty = false := by
    rw [List.isEmpty_eq_false_iff, Ne, List.dropWhile_eq_nil_iff]
    intro hall
    rw [hall c hc] at hblank
    cases hblank
  rw [trimStart, List.dropWhile_append, hne]
  rfl

theorem trimEnd_append {cs : List Char} (h : ∃ c ∈ cs, isBlank c = false) (front : List Char) :
    trimEnd (front ++ cs) = front ++ trimEnd cs := by
  obtain ⟨c, hc, hblank⟩ := h
  have hreverse := trimStart_append ⟨c, List.mem_reverse.2 hc, hblank⟩ front.reverse
  rw [trimEnd, dropEndWhile, List.reverse_append]
  show (trimStart (cs.reverse ++ front.reverse)).reverse = _
  rw [hreverse, List.reverse_append, List.reverse_reverse]
  rfl

/-- Trimming takes the blank characters at the end away. -/
theorem trimEnd_append_blanks (cs : List Char) {blanks : List Char}
    (h : ∀ c ∈ blanks, isBlank c = true) : trimEnd (cs ++ blanks) = trimEnd cs := by
  rw [trimEnd, dropEndWhile, List.reverse_append,
    List.dropWhile_append_of_pos fun c hc ↦ h c (List.mem_reverse.1 hc)]
  rfl

theorem trim_eq_nil {cs : List Char} (h : ∀ c ∈ cs, isBlank c = true) : trim cs = [] := by
  have hstart : trimStart cs = [] := List.dropWhile_eq_nil_iff.2 h
  rw [trim, hstart]
  rfl

/-- Blanks around a text are trimmed away. -/
theorem trim_padded {front behind : List Char} (hfront : ∀ c ∈ front, isBlank c = true)
    (hbehind : ∀ c ∈ behind, isBlank c = true) (cs : List Char) :
    trim (front ++ cs ++ behind) = trim cs := by
  have hstart (rest : List Char) : trimStart (front ++ rest) = trimStart rest :=
    List.dropWhile_append_of_pos hfront
  by_cases hblank : ∃ c ∈ cs, isBlank c = false
  · rw [trim, List.append_assoc, hstart, trimStart_append hblank,
      trimEnd_append_blanks _ hbehind, trim]
  · have hcs : ∀ c ∈ cs, isBlank c = true := by simpa using hblank
    rw [trim_eq_nil hcs, trim_eq_nil]
    intro c hc
    rcases List.mem_append.1 hc with hc | hc
    · rcases List.mem_append.1 hc with hc | hc
      · exact hfront c hc
      · exact hcs c hc
    · exact hbehind c hc

/-- Blanks at the end make no difference. -/
theorem trim_trimEnd (cs : List Char) : trim (trimEnd cs) = trim cs := by
  obtain ⟨blanks, hcs, hblanks⟩ := exists_trimEnd_append cs
  have hpadded := trim_padded (List.forall_mem_nil _) hblanks (trimEnd cs)
  rw [List.nil_append, ← hcs] at hpadded
  exact hpadded.symm

/-- Behind a text with other characters at both ends only the end is trimmed. -/
theorem trim_append {cs : List Char} (hne : cs ≠ []) (h : trim cs = cs) (behind : List Char) :
    trim (cs ++ behind) = cs ++ trimEnd behind := by
  have hstart : trimStart (cs ++ behind) = cs ++ behind := by
    refine trimStart_eq_self fun c hc ↦ isBlank_head?_of_trim h c ?_
    rwa [List.head?_append_of_ne_nil _ hne] at hc
  rw [trim, hstart]
  by_cases hblank : ∃ c ∈ behind, isBlank c = false
  · exact trimEnd_append hblank cs
  · have hbehind : ∀ c ∈ behind, isBlank c = true := by simpa using hblank
    have hend := trimEnd_append_blanks [] hbehind
    rw [List.nil_append] at hend
    rw [trimEnd_append_blanks cs hbehind, trimEnd_eq_self (isBlank_getLast?_of_trim h), hend]
    exact (List.append_nil cs).symm

/-! ### Words -/

theorem mem_of_mem_words {cs word : List Char} (h : word ∈ words cs) : ∀ c ∈ word, c ∈ cs :=
  fun c hc ↦ (mem_of_mem_splitWhere (List.mem_filter.1 h).1 c hc).1

/-! ### Numbers have nothing to trim -/

theorem isDigit_of_mem_repr {n : Nat} : ∀ c ∈ n.repr.toList, c.isDigit = true := by
  intro c hc
  rw [Nat.repr, String.toList_ofList] at hc
  exact Nat.isDigit_of_mem_toDigits (by decide) (by decide) hc

/-- A digit is not blank. -/
theorem isBlank_of_isDigit {c : Char} (h : c.isDigit = true) : isBlank c = false := by
  have hrange : 48 ≤ c.toNat ∧ c.toNat ≤ 57 := by
    rw [Char.isDigit, Bool.and_eq_true, decide_eq_true_eq, decide_eq_true_eq] at h
    exact h
  simp only [isBlank, Bool.or_eq_false_iff, Bool.and_eq_false_iff, decide_eq_false_iff_not,
    beq_eq_false_iff_ne]
  omega

/-- A number has nothing to trim. -/
theorem trim_repr (n : Nat) : trim n.repr.toList = n.repr.toList := by
  have hblank : ∀ c ∈ n.repr.toList, isBlank c = false :=
    fun c hc ↦ isBlank_of_isDigit (isDigit_of_mem_repr c hc)
  rw [trim, trimStart_eq_self fun c hc ↦ hblank c (List.mem_of_head? hc),
    trimEnd_eq_self fun c hc ↦ hblank c (List.mem_of_getLast? hc)]

end ServerSetup.Text
