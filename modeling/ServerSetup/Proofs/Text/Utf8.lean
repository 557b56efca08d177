import ServerSetup.Text.Utf8

/-!
# The bytes of characters

A text is written as the bytes of its characters, one after the other. Read with replacement
characters it is the same text again, since none of its bytes is out of place
(`ofBytesLossy_bytesOf`).

The reader goes through the bytes with a little memory: how many more are due for the character that
has begun, and within which bounds the next one has to be. So the proof goes through the four
lengths that a character can have, and shows that its first byte promises what the others keep. The
bounds for the second byte exclude the longer ways to write a number, the surrogates, and numbers
beyond the last character, none of which stands in the bytes of a text.

The bytes of ASCII stand for themselves and in no other character (`toNat_of_mem_utf8EncodeChar`),
so that an ASCII word can be looked for in bytes as well as in characters.
-/

namespace ServerSetup.Text

/-! ### Bytes -/

theorem bytesOf_ofList (cs : List Char) :
    bytesOf (String.ofList cs) = cs.flatMap String.utf8EncodeChar := by
  simp [bytesOf, List.utf8Encode]

theorem bytesOf_eq (s : String) : bytesOf s = s.toList.flatMap String.utf8EncodeChar := by
  rw [← bytesOf_ofList, String.ofList_toList]

/-- A character of ASCII is one byte. -/
theorem utf8EncodeChar_of_ascii {c : Char} (h : c.toNat < 0x80) :
    String.utf8EncodeChar c = [UInt8.ofNat c.toNat] :=
  if_pos (Nat.le_of_lt_succ h)

/-- A byte of a character is its number or none of ASCII. -/
theorem toNat_of_mem_utf8EncodeChar {c : Char} {b : UInt8} (hb : b ∈ String.utf8EncodeChar c) :
    b.toNat = c.toNat ∨ 0x80 ≤ b.toNat := by
  by_cases hc : c.toNat < 0x80
  · rw [utf8EncodeChar_of_ascii hc, List.mem_singleton] at hb
    rw [hb, UInt8.toNat_ofNat']
    omega
  · right
    have hc' : ¬ c.val.toNat ≤ 0x7f := fun h ↦ hc (Nat.lt_succ_of_le h)
    rw [String.utf8EncodeChar, if_neg hc'] at hb
    split at hb
    · simp only [List.mem_cons, List.not_mem_nil, or_false] at hb
      rcases hb with rfl | rfl <;> rw [UInt8.toNat_ofNat'] <;> omega
    · split at hb
      · simp only [List.mem_cons, List.not_mem_nil, or_false] at hb
        rcases hb with rfl | rfl | rfl <;> rw [UInt8.toNat_ofNat'] <;> omega
      · simp only [List.mem_cons, List.not_mem_nil, or_false] at hb
        rcases hb with rfl | rfl | rfl | rfl <;> rw [UInt8.toNat_ofNat'] <;> omega

theorem utf8EncodeChar_ne_nil (c : Char) : String.utf8EncodeChar c ≠ [] := by
  rw [← List.length_pos_iff, String.length_utf8EncodeChar]
  exact c.utf8Size_pos

/-- Behind the first byte of a character there is none of ASCII. -/
theorem toNat_of_mem_tail_utf8EncodeChar {c : Char} {b : UInt8}
    (hb : b ∈ (String.utf8EncodeChar c).tail) : 0x80 ≤ b.toNat := by
  by_cases hc : c.toNat < 0x80
  · rw [utf8EncodeChar_of_ascii hc] at hb
    cases hb
  · rcases toNat_of_mem_utf8EncodeChar (List.mem_of_mem_tail hb) with hbyte | hbyte <;> omega

/-- The bytes of an ASCII word are in front of the bytes of a text exactly if the word is in front
of the text. -/
theorem flatMap_utf8EncodeChar_prefix_iff {word cs : List Char} (h : ∀ c ∈ word, c.toNat < 0x80) :
    word.flatMap String.utf8EncodeChar <+: cs.flatMap String.utf8EncodeChar ↔ word <+: cs := by
  induction word generalizing cs with
  | nil => simp
  | cons c word ih =>
    have hc : c.toNat < 0x80 := h c List.mem_cons_self
    have hword := fun ds ↦ @ih ds fun d hd ↦ h d (List.mem_cons_of_mem _ hd)
    rw [List.flatMap_cons, utf8EncodeChar_of_ascii hc, List.singleton_append]
    rcases cs with - | ⟨d, cs⟩
    · simp
    · by_cases hd : d.toNat < 0x80
      · rw [List.flatMap_cons, utf8EncodeChar_of_ascii hd, List.singleton_append,
          List.cons_prefix_cons, List.cons_prefix_cons, hword]
        refine and_congr_left fun _ ↦ ⟨fun hbyte ↦ ?_, fun hchar ↦ by rw [hchar]⟩
        have hnat := congrArg UInt8.toNat hbyte
        rw [UInt8.toNat_ofNat', UInt8.toNat_ofNat'] at hnat
        exact Char.toNat_inj.1 (by omega)
      · -- the first byte of `d` is none of ASCII, so neither the bytes nor the characters agree
        obtain ⟨b, bs, hbytes⟩ := List.exists_cons_of_ne_nil (utf8EncodeChar_ne_nil d)
        have hbyte : UInt8.ofNat c.toNat ≠ b := by
          rintro rfl
          have hmem : UInt8.ofNat c.toNat ∈ String.utf8EncodeChar d := by
            rw [hbytes]
            exact List.mem_cons_self
          rcases toNat_of_mem_utf8EncodeChar hmem with hlow | hlow <;>
            rw [UInt8.toNat_ofNat'] at hlow <;> omega
        have hchar : c ≠ d := by
          rintro rfl
          exact hd hc
        rw [List.flatMap_cons, hbytes, List.cons_append, List.cons_prefix_cons,
          List.cons_prefix_cons]
        exact iff_of_false (fun h ↦ hbyte h.1) (fun h ↦ hchar h.1)

/-! ### Reading with replacement characters -/

/-- What the first byte of a character promises, said with numbers. -/
theorem continuation?_ofNat : ∀ n < 256, continuation? (.ofNat n) =
    if 0xC2 ≤ n ∧ n ≤ 0xDF then some (1, 0x80, 0xBF)
    else if n = 0xE0 then some (2, 0xA0, 0xBF)
    else if n = 0xED then some (2, 0x80, 0x9F)
    else if 0xE1 ≤ n ∧ n ≤ 0xEF then some (2, 0x80, 0xBF)
    else if n = 0xF0 then some (3, 0x90, 0xBF)
    else if 0xF1 ≤ n ∧ n ≤ 0xF3 then some (3, 0x80, 0xBF)
    else if n = 0xF4 then some (3, 0x80, 0x8F)
    else none := by
  decide +kernel

section lossy

variable {n left code : Nat} {low high : UInt8} {rest : List UInt8}

/-- A byte of ASCII is a character. -/
theorem lossyFrom_ascii (h : n < 0x80) :
    lossyFrom 0 0 0 0 (.ofNat n :: rest) = Char.ofNat n :: lossyFrom 0 0 0 0 rest := by
  have hnat : (UInt8.ofNat n).toNat = n := UInt8.toNat_ofNat_of_lt' (Nat.lt_trans h (by decide))
  have hlow : UInt8.ofNat n < 0x80 := by
    rw [UInt8.lt_iff_toNat_lt, hnat]
    exact h
  rw [lossyFrom, if_pos hlow, hnat]
  rfl

/-- A byte that starts a character sets what is to follow. -/
theorem lossyFrom_first (hn : n < 256) (h : 0x80 ≤ n)
    (hfirst : continuation? (.ofNat n) = some (left, low, high)) :
    lossyFrom 0 0 0 0 (.ofNat n :: rest) = lossyFrom left low high
      (n % (if left = 1 then 32 else if left = 2 then 16 else 8)) rest := by
  have hnat : (UInt8.ofNat n).toNat = n := UInt8.toNat_ofNat_of_lt' hn
  have hhigh : ¬ UInt8.ofNat n < 0x80 := by
    rw [UInt8.lt_iff_toNat_lt, hnat]
    exact Nat.not_lt.2 h
  rw [lossyFrom, if_neg hhigh, hfirst, hnat]
  rfl

/-- A byte that fits goes on with a character. -/
theorem lossyFrom_fitting (hleft : left ≠ 0) (hn : n < 256) (hlow : low.toNat ≤ n)
    (hhigh : n ≤ high.toNat) : lossyFrom left low high code (.ofNat n :: rest) =
      if left = 1 then Char.ofNat (code * 64 + (n - 0x80)) :: lossyFrom 0 0 0 0 rest
      else lossyFrom (left - 1) 0x80 0xBF (code * 64 + (n - 0x80)) rest := by
  have hnat : (UInt8.ofNat n).toNat = n := UInt8.toNat_ofNat_of_lt' hn
  have hfits :
      (decide (left ≠ 0) && decide (low ≤ .ofNat n) && decide (.ofNat n ≤ high)) = true := by
    simp only [UInt8.le_iff_toNat_le, hnat, hleft, hlow, hhigh, ne_eq, not_false_eq_true,
      decide_true, Bool.and_self]
  rw [lossyFrom, if_pos hfits, hnat]

/-- A byte after the second one fits in any case. -/
theorem lossyFrom_tail (hleft : left ≠ 0) (hn : n < 64) :
    lossyFrom left 0x80 0xBF code (.ofNat (n + 128) :: rest) =
      if left = 1 then Char.ofNat (code * 64 + n) :: lossyFrom 0 0 0 0 rest
      else lossyFrom (left - 1) 0x80 0xBF (code * 64 + n) rest := by
  have hhigh : n + 128 ≤ (0xBF : UInt8).toNat := by
    show n + 128 ≤ 191
    omega
  have hlow : (0x80 : UInt8).toNat ≤ n + 128 := Nat.le_add_left 128 n
  rw [lossyFrom_fitting hleft (by omega) hlow hhigh, Nat.add_sub_cancel]

end lossy

/-- The number of a character is none of a surrogate and not too large. -/
theorem toNat_char_bounds (c : Char) :
    c.val.toNat < 0xD800 ∨ 0xDFFF < c.val.toNat ∧ c.val.toNat < 0x110000 := c.valid

/-- The first of three bytes promises two more, of which the second byte is within the bounds. -/
theorem continuation?_of_three {v : Nat} (hlarge : 2047 < v) (hsmall : v ≤ 65535)
    (hvalid : v < 0xD800 ∨ 0xDFFF < v) : ∃ low high,
      continuation? (.ofNat (v / 4096 % 16 + 224)) = some (2, low, high) ∧
        low.toNat ≤ v / 64 % 64 + 128 ∧ v / 64 % 64 + 128 ≤ high.toNat := by
  rw [continuation?_ofNat _ (by omega), if_neg (by omega)]
  by_cases hfirst : v / 4096 % 16 + 224 = 0xE0
  · refine ⟨0xA0, 0xBF, if_pos hfirst, ?_, ?_⟩
    · show 160 ≤ _
      omega
    · show _ ≤ 191
      omega
  rw [if_neg hfirst]
  by_cases hsurrogate : v / 4096 % 16 + 224 = 0xED
  · refine ⟨0x80, 0x9F, if_pos hsurrogate, Nat.le_add_left 128 _, ?_⟩
    show _ ≤ 159
    omega
  · rw [if_neg hsurrogate, if_pos (by omega)]
    refine ⟨0x80, 0xBF, rfl, Nat.le_add_left 128 _, ?_⟩
    show _ ≤ 191
    omega

/-- The first of four bytes promises three more, of which the second byte is within the bounds. -/
theorem continuation?_of_four {v : Nat} (hlarge : 65535 < v) (hsmall : v < 0x110000) :
    ∃ low high, continuation? (.ofNat (v / 262144 % 8 + 240)) = some (3, low, high) ∧
      low.toNat ≤ v / 4096 % 64 + 128 ∧ v / 4096 % 64 + 128 ≤ high.toNat := by
  rw [continuation?_ofNat _ (by omega), if_neg (by omega), if_neg (by omega), if_neg (by omega),
    if_neg (by omega)]
  by_cases hfirst : v / 262144 % 8 + 240 = 0xF0
  · refine ⟨0x90, 0xBF, if_pos hfirst, ?_, ?_⟩
    · show 144 ≤ _
      omega
    · show _ ≤ 191
      omega
  rw [if_neg hfirst]
  by_cases hlast : v / 262144 % 8 + 240 = 0xF4
  · rw [if_neg (by omega)]
    refine ⟨0x80, 0x8F, if_pos hlast, Nat.le_add_left 128 _, ?_⟩
    show _ ≤ 143
    omega
  · rw [if_pos (by omega)]
    refine ⟨0x80, 0xBF, rfl, Nat.le_add_left 128 _, ?_⟩
    show _ ≤ 191
    omega

/-- The bytes of a character are read as the character. -/
theorem lossyFrom_utf8EncodeChar (c : Char) (rest : List UInt8) :
    lossyFrom 0 0 0 0 (String.utf8EncodeChar c ++ rest) = c :: lossyFrom 0 0 0 0 rest := by
  have hvalid := toNat_char_bounds c
  have hchar : Char.ofNat c.val.toNat = c := Char.ofNat_toNat c
  have htail (n : Nat) : n % 64 < 64 := Nat.mod_lt _ (by decide)
  rw [String.utf8EncodeChar]
  generalize c.val.toNat = v at hvalid hchar
  -- The four lengths of an encoding. In each, the first byte tells the length, and the others add
  -- their six bits.
  by_cases hone : v ≤ 127
  · rw [if_pos hone, List.singleton_append, lossyFrom_ascii (by omega), hchar]
  rw [if_neg hone]
  by_cases htwo : v ≤ 2047
  · have hfirst := continuation?_ofNat (v / 64 % 32 + 192) (by omega)
    rw [if_pos (by omega)] at hfirst
    rw [if_pos htwo, List.cons_append, List.singleton_append,
      lossyFrom_first (by omega) (by omega) hfirst, if_pos rfl,
      lossyFrom_tail (by decide) (htail v), if_pos rfl]
    have hcode : (v / 64 % 32 + 192) % 32 * 64 + v % 64 = v := by omega
    rw [hcode, hchar]
  rw [if_neg htwo]
  by_cases hthree : v ≤ 65535
  · obtain ⟨low, high, hfirst, hlow, hhigh⟩ :=
      continuation?_of_three (v := v) (by omega) hthree (by omega)
    rw [if_pos hthree, List.cons_append, List.cons_append, List.singleton_append,
      lossyFrom_first (by omega) (by omega) hfirst, if_neg (by decide), if_pos rfl,
      lossyFrom_fitting (by decide) (by omega) hlow hhigh, if_neg (by decide),
      lossyFrom_tail (by decide) (htail v), if_pos rfl]
    have hcode :
        ((v / 4096 % 16 + 224) % 16 * 64 + (v / 64 % 64 + 128 - 128)) * 64 + v % 64 = v := by
      omega
    rw [hcode, hchar]
  · obtain ⟨low, high, hfirst, hlow, hhigh⟩ :=
      continuation?_of_four (v := v) (by omega) (by omega)
    rw [if_neg hthree, List.cons_append, List.cons_append, List.cons_append, List.singleton_append,
      lossyFrom_first (by omega) (by omega) hfirst, if_neg (by decide), if_neg (by decide),
      lossyFrom_fitting (by decide) (by omega) hlow hhigh, if_neg (by decide),
      lossyFrom_tail (by decide) (htail _), if_neg (by decide),
      lossyFrom_tail (by decide) (htail v), if_pos rfl]
    have hcode : (((v / 262144 % 8 + 240) % 8 * 64 + (v / 4096 % 64 + 128 - 128)) * 64 +
        v / 64 % 64) * 64 + v % 64 = v := by
      omega
    rw [hcode, hchar]

/-- **A text is read back from its bytes,** without replacement characters. -/
theorem ofBytesLossy_bytesOf (s : String) : ofBytesLossy (bytesOf s) = s := by
  have hread (cs : List Char) :
      lossyFrom 0 0 0 0 (cs.flatMap String.utf8EncodeChar) = cs := by
    induction cs with
    | nil => rfl
    | cons c cs ih => rw [List.flatMap_cons, lossyFrom_utf8EncodeChar, ih]
  rw [ofBytesLossy, bytesOf_eq, hread, String.ofList_toList]

end ServerSetup.Text
