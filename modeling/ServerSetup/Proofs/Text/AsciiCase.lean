import ServerSetup.Text.Blank
import ServerSetup.Text.Lowercase

/-!
# Small letters

The small letter of an ASCII letter is an ASCII letter with the same lower case, and every other
character is its own small letter. So no character but a letter comes out as something else, and
blank characters stay what they are.

There are two ways to forget letter case in the tool. Flags, filter names and records are compared
by their small ASCII letters, and the keys of paths and the names of directories by the lower case
of all letters. That the second comparison does not tell apart what the first one does not
(`lowercase_toLower`) is used where a path is written with some letters in the other case.
-/

namespace ServerSetup.Text

variable {c d : Char}

/-- A letter and its small letter are both of ASCII or the same character. -/
theorem toLower_ascii_or_eq (c : Char) :
    (c.toNat < 0x80 ∧ c.toLower.toNat < 0x80) ∨ c.toLower = c := by
  by_cases h : c.val ≥ 'A'.val ∧ c.val ≤ 'Z'.val
  · left
    have hlower : c.toLower.val = c.val + 32 := congrArg Char.val (dif_pos h)
    have hhigh : c.val.toNat ≤ 90 := UInt32.le_iff_toNat_le.1 h.2
    have hnat : c.toLower.toNat = c.val.toNat + 32 := by
      rw [Char.toNat, hlower, UInt32.toNat_add, show (32 : UInt32).toNat = 32 from rfl]
      omega
    exact ⟨Nat.lt_of_le_of_lt hhigh (by decide), by omega⟩
  · exact Or.inr (dif_neg h)

/-- A character of ASCII that is its own small letter and has no capital is no other one's. -/
theorem eq_of_toLower_eq (hlower : c.toLower = d) (hletter : d.isLower = false) : c = d := by
  rcases toLower_ascii_or_eq c with ⟨hascii, -⟩ | hsame
  · have hall : ∀ n < 0x80, (Char.ofNat n).toLower.isLower = false →
        (Char.ofNat n).toLower = Char.ofNat n := by decide +kernel
    have hc := hall c.toNat hascii
    rw [Char.ofNat_toNat, hlower] at hc
    exact (hc hletter).symm
  · exact hsame.symm.trans hlower

/-- The small letter of a character is blank only if the character is. -/
theorem isBlank_toLower (c : Char) : isBlank c.toLower = isBlank c := by
  rcases toLower_ascii_or_eq c with ⟨hascii, -⟩ | hsame
  · have hall : ∀ n < 0x80, isBlank (Char.ofNat n).toLower = isBlank (Char.ofNat n) := by
      decide +kernel
    have hc := hall c.toNat hascii
    rwa [Char.ofNat_toNat] at hc
  · rw [hsame]

/-! ### Lower case -/

/-- A small letter of ASCII has no lower case but itself. -/
theorem simpleLowercase_of_isLower (h : 97 ≤ c.toNat ∧ c.toNat ≤ 122) : simpleLowercase c = c := by
  have hruns : ∀ run ∈ lowercaseRuns, 122 < run.1 ∨ run.2.1 < 97 := by decide +kernel
  rw [simpleLowercase]
  dsimp only
  split
  · next first last step lower hfind =>
    -- the run would have to begin before the character and to end behind it
    have hbounds : 122 < first ∨ last < 97 := hruns _ (List.mem_of_find?_eq_some hfind)
    have hinside := List.find?_some hfind
    simp only [Bool.and_eq_true, decide_eq_true_eq] at hinside
    omega
  · rfl

/-- A letter and its small letter have the same lower case. -/
theorem lowercase_toLower (c : Char) : lowercase c.toLower = lowercase c := by
  by_cases hupper : 65 ≤ c.toNat ∧ c.toNat ≤ 90
  · have hall : ∀ n < 91, 65 ≤ n → lowercase (Char.ofNat n) = [(Char.ofNat n).toLower] ∧
        (Char.ofNat n).toLower.toNat = n + 32 := by decide +kernel
    obtain ⟨hlower, hnat⟩ := hall c.toNat (by omega) hupper.1
    rw [Char.ofNat_toNat] at hlower hnat
    have hdot : c.toLower ≠ '\u0130' := by
      intro hdot
      rw [hdot] at hnat
      have hdot : ('\u0130').toNat = 304 := rfl
      omega
    rw [hlower, lowercase, if_neg hdot, simpleLowercase_of_isLower (by omega)]
  · have hsame : c.toLower = c := by
      refine dif_neg fun h ↦ hupper ?_
      have hlow : 65 ≤ c.toNat := UInt32.le_iff_toNat_le.1 h.1
      exact ⟨hlow, UInt32.le_iff_toNat_le.1 h.2⟩
    rw [hsame]

end ServerSetup.Text
