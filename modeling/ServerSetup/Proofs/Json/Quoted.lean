import Mathlib.Data.List.Basic
import ServerSetup.Proofs.Json.Scan
import ServerSetup.Proofs.Text.Utf8

/-!
# Reading written strings

A character may be written in more ways than one: as itself, by an escape letter, by its number, or
by the numbers of a surrogate pair (`Written`). A string in which each character is written in any
of these ways is read back (`WritesString.unquote?_eq`), and the scanner finds its end.

Two passes go over a string. The scanner looks at bytes and only asks where the string ends, so for
it the ways to write a character are bytes that keep it in the string (`InnerText`). The reader
works on characters, and takes them to pieces first, characters and numbers, which it then joins: a
number in the range of the surrogates is half of a character, and the two halves have to stand side
by side. `Spells` relates a text to the ways to write it, one character after the other, and each
pass is an induction over it.

The writer of the tool chooses one way for each character. That it is among those of the grammar
(`written_escapeChar`) makes what it writes a special case.
-/

namespace ServerSetup

namespace Json

/-! ### Hexadecimal digits -/

theorem hexDigit_spec : ∀ n < 16, hexValue? (hexDigit n) = some n ∧ (hexDigit n).toNat < 0x80 ∧
    isHexDigit (UInt8.ofNat (hexDigit n).toNat) = true := by
  decide

variable {c letter : Char} {n : Nat} {digits written : List Char}

theorem hexValue?_of_toLower_ofNat : ∀ k < 0x80, ∀ n < 16, (Char.ofNat k).toLower = n.digitChar →
    hexValue? (Char.ofNat k) = some n ∧ isHexDigit (UInt8.ofNat (Char.ofNat k).toNat) = true := by
  decide +kernel

/-- A hexadecimal digit in either letter case has its value, and it is one byte. -/
theorem hexValue?_of_toLower (hn : n < 16) (h : c.toLower = n.digitChar) :
    hexValue? c = some n ∧ c.toNat < 0x80 ∧ isHexDigit (UInt8.ofNat c.toNat) = true := by
  have hdigit : ∀ n < 16, n.digitChar.toNat < 0x80 := by decide
  have hascii : c.toNat < 0x80 := by
    by_cases hupper : c.val ≥ 'A'.val ∧ c.val ≤ 'Z'.val
    · exact Nat.lt_of_le_of_lt (UInt32.le_iff_toNat_le.1 hupper.2) (by decide)
    · have hself : c.toLower = c := dif_neg hupper
      exact hself ▸ h ▸ hdigit n hn
  have hspec := hexValue?_of_toLower_ofNat c.toNat hascii n hn
  rw [Char.ofNat_toNat] at hspec
  exact ⟨(hspec h).1, hascii, (hspec h).2⟩

/-- Four hexadecimal digits of a number, in either letter case. -/
def FourDigits (n : Nat) (digits : List Char) : Prop :=
  n < 0x10000 ∧ digits.map Char.toLower =
    [(n / 0x1000).digitChar, (n / 0x100 % 16).digitChar, (n / 16 % 16).digitChar,
      (n % 16).digitChar]

instance : Decidable (FourDigits n digits) := inferInstanceAs (Decidable (_ ∧ _))

/-- Four digits of a number are read back, and are ASCII. -/
theorem FourDigits.exists_eq (h : FourDigits n digits) : ∃ a b c d, digits = [a, b, c, d] ∧
    hexNumber? [a, b, c, d] = some n ∧ ∀ e ∈ [a, b, c, d], e.toNat < 0x80 ∧
      isHexDigit (UInt8.ofNat e.toNat) = true := by
  obtain ⟨hn, hlower⟩ := h
  obtain ⟨a, digits, rfl, ha, hlower⟩ := List.map_eq_cons_iff.1 hlower
  obtain ⟨b, digits, rfl, hb, hlower⟩ := List.map_eq_cons_iff.1 hlower
  obtain ⟨c, digits, rfl, hc, hlower⟩ := List.map_eq_cons_iff.1 hlower
  obtain ⟨d, digits, rfl, hd, hlower⟩ := List.map_eq_cons_iff.1 hlower
  obtain rfl := List.map_eq_nil_iff.1 hlower
  have ha := hexValue?_of_toLower (by omega) ha
  have hb := hexValue?_of_toLower (by omega) hb
  have hc := hexValue?_of_toLower (by omega) hc
  have hd := hexValue?_of_toLower (by omega) hd
  refine ⟨a, b, c, d, rfl, ?_, ?_⟩
  · simp only [hexNumber?, List.foldl_cons, List.foldl_nil, Option.bind_some, Option.map_some,
      ha.1, hb.1, hc.1, hd.1]
    exact congrArg some (by omega)
  · simp only [List.forall_mem_cons, List.not_mem_nil, false_implies, implies_true, and_true]
    exact ⟨ha.2, hb.2, hc.2, hd.2⟩


/-! ### Characters -/

/-- The characters with an escape of one letter. -/
def escapeLetters : List (Char × Char) :=
  [('"', '"'), ('\\', '\\'), ('/', '/'), ('\x08', 'b'), ('\x0c', 'f'), ('\n', 'n'), ('\r', 'r'),
    ('\t', 't')]

/-- What an escape letter stands for. -/
theorem escapeLetters_spec : ∀ e ∈ escapeLetters, unescapeLetter? e.2 = some e.1 ∧ e.2 ≠ 'u' ∧
    e.2.toNat < 0x80 ∧
    UInt8.ofNat e.2.toNat ∈ ([0x22, 0x5C, 0x2F, 0x62, 0x66, 0x6E, 0x72, 0x74] : List UInt8) := by
  decide

/-- The ways to write a character: an escape letter, its number, the numbers of a surrogate pair, or
the character itself. -/
inductive Written (c : Char) : List Char → Prop
  | letter (letter : Char) (h : (c, letter) ∈ escapeLetters) : Written c ['\\', letter]
  | number {digits : List Char} (h : FourDigits c.toNat digits) : Written c ('\\' :: 'u' :: digits)
  | pair {high low : List Char} (hlarge : 0x10000 ≤ c.toNat)
      (hhigh : FourDigits (0xD800 + (c.toNat - 0x10000) / 0x400) high)
      (hlow : FourDigits (0xDC00 + (c.toNat - 0x10000) % 0x400) low) :
      Written c ('\\' :: 'u' :: high ++ '\\' :: 'u' :: low)
  | plain (h : ¬ c.toNat < 0x20) (hquote : c ≠ '"') (hbackslash : c ≠ '\\') : Written c [c]

/-- The letters that the writer uses are those of the grammar. -/
theorem mem_escapeLetters_of_lookup (h : escapes.lookup c = some letter) :
    (c, letter) ∈ escapeLetters := by
  have hsub : escapes ⊆ escapeLetters := by decide
  obtain ⟨front, behind, hsplit, -⟩ := List.lookup_eq_some_iff.1 h
  refine hsub ?_
  rw [hsplit]
  simp

/-- A quote and a backslash have an escape. -/
theorem ne_of_lookup_eq_none (h : escapes.lookup c = none) : c ≠ '"' ∧ c ≠ '\\' := by
  constructor
  · rintro rfl
    cases h
  · rintro rfl
    cases h

/-- What the writer makes of a character is one of the ways to write it. -/
theorem written_escapeChar (c : Char) : Written c (escapeChar c) := by
  have hdigits : ∀ n < 0x20, FourDigits n ['0', '0', hexDigit (n / 16), hexDigit (n % 16)] := by
    decide
  rw [escapeChar]
  rcases hlookup : escapes.lookup c with - | letter
  · dsimp only
    obtain ⟨hquote, hbackslash⟩ := ne_of_lookup_eq_none hlookup
    split
    · next h => exact .number (hdigits c.toNat h)
    · next h => exact .plain h hquote hbackslash
  · exact .letter letter (mem_escapeLetters_of_lookup hlookup)

/-- The grammar admits the number of a character between quotes. -/
theorem FourDigits.innerText (h : FourDigits n digits) {rest : List UInt8}
    (hrest : InnerText rest) :
    InnerText (0x5C :: 0x75 :: digits.flatMap String.utf8EncodeChar ++ rest) := by
  obtain ⟨a, b, c, d, rfl, -, hhex⟩ := h.exists_eq
  have hbytes : [a, b, c, d].flatMap String.utf8EncodeChar =
      [a, b, c, d].map fun e ↦ UInt8.ofNat e.toNat := by
    rw [List.map_eq_flatMap]
    exact List.flatMap_congr fun e he ↦ Text.utf8EncodeChar_of_ascii (hhex e he).1
  rw [hbytes]
  exact .number rfl (List.forall_mem_map.2 fun e he ↦ (hhex e he).2) hrest

/-- Bytes that are neither control characters, quotes nor backslashes stand for themselves. -/
theorem innerText_of_forall {bytes : List UInt8}
    (h : ∀ b ∈ bytes, ¬ b < 0x20 ∧ b ≠ 0x22 ∧ b ≠ 0x5C) : InnerText bytes := by
  induction bytes with
  | nil => exact .nil
  | cons b bytes ih =>
    rw [List.forall_mem_cons] at h
    exact .plain h.1.1 h.1.2.1 h.1.2.2 (ih h.2)

/-- The grammar admits a written character between quotes. -/
theorem Written.innerText (h : Written c written) :
    InnerText (written.flatMap String.utf8EncodeChar) := by
  rcases h with ⟨letter, hmem⟩ | hnumber | ⟨-, hhigh, hlow⟩ | ⟨hcode, hquote, hbackslash⟩
  · obtain ⟨-, -, hascii, hletter⟩ := escapeLetters_spec _ hmem
    simp only [List.flatMap_cons, List.flatMap_nil, Text.utf8EncodeChar_of_ascii hascii]
    exact .letter hletter .nil
  · have hinner := hnumber.innerText .nil
    rwa [List.append_nil] at hinner
  · have hinner := hhigh.innerText (hlow.innerText .nil)
    rw [List.append_nil] at hinner
    rw [List.flatMap_append]
    exact hinner
  · rw [List.flatMap_singleton]
    refine innerText_of_forall fun b hb ↦ ?_
    have hne {k : Char} (hk : c ≠ k) (hascii : k.toNat < 0x80) : b ≠ UInt8.ofNat k.toNat := by
      rintro rfl
      rcases Text.toNat_of_mem_utf8EncodeChar hb with h | h
      · rw [UInt8.toNat_ofNat', Nat.mod_eq_of_lt (by omega)] at h
        exact hk (Char.toNat_inj.1 h.symm)
      · rw [UInt8.toNat_ofNat'] at h
        omega
    refine ⟨?_, hne hquote (by decide), hne hbackslash (by decide)⟩
    rw [UInt8.lt_iff_toNat_lt]
    rcases Text.toNat_of_mem_utf8EncodeChar hb with h | h
    · rwa [h]
    · exact Nat.not_lt.2 (Nat.le_trans (by decide) h)

/-- A number is read as one piece. -/
theorem FourDigits.pieces?_eq (h : FourDigits n digits) (rest : List Char) :
    pieces? ('\\' :: 'u' :: digits ++ rest) = (pieces? rest).map (.code n :: ·) := by
  obtain ⟨a, b, c, d, rfl, hnumber, -⟩ := h.exists_eq
  simp only [List.cons_append, List.nil_append]
  rw [pieces?, hnumber]
  rcases pieces? rest with - | pieces <;> rfl

theorem joinPieces?_code {behind : List Piece} (hhigh : isHighHalf n = false)
    (hlow : isLowHalf n = false) :
    joinPieces? (.code n :: behind) = (joinPieces? behind).map (Char.ofNat n :: ·) := by
  rw [joinPieces?.eq_def]
  simp only [hhigh, hlow, Bool.false_eq_true, if_false]

/-- The numbers of a surrogate pair make one character. -/
theorem joinPieces?_pair {m : Nat} {behind : List Piece} (hhigh : isHighHalf n = true)
    (hlow : isLowHalf m = true) : joinPieces? (.code n :: .code m :: behind) =
      (joinPieces? behind).map
        (Char.ofNat (0x10000 + (n - 0xD800) * 0x400 + (m - 0xDC00)) :: ·) := by
  rw [joinPieces?.eq_def]
  simp only [hhigh, hlow, if_true]

/-- **A written character is read back**, whatever follows it. -/
theorem Written.read (h : Written c written) (rest : List Char) :
    ∃ front, pieces? (written ++ rest) = (pieces? rest).map (front ++ ·) ∧
      ∀ behind, joinPieces? (front ++ behind) = (joinPieces? behind).map (c :: ·) := by
  have hvalid := Text.toNat_char_bounds c
  have hnat : c.val.toNat = c.toNat := rfl
  rw [hnat] at hvalid
  -- The four ways to write a character: a letter behind a backslash, its number, the numbers of
  -- two halves, and the character itself.
  rcases h with ⟨letter, hmem⟩ | hnumber | ⟨hlarge, hhigh, hlow⟩ | ⟨-, -, hbackslash⟩
  · obtain ⟨hread, hu, -⟩ := escapeLetters_spec _ hmem
    refine ⟨[.char c], ?_, fun _ ↦ rfl⟩
    have hpieces : pieces? ('\\' :: letter :: rest) =
        do return .char (← unescapeLetter? letter) :: (← pieces? rest) := by
      rw [pieces?]
      exact fun _ _ _ _ _ h _ ↦ hu h
    rw [List.cons_append, List.cons_append, List.nil_append, hpieces, hread]
    rcases pieces? rest with - | pieces <;> rfl
  · refine ⟨[.code c.toNat], hnumber.pieces?_eq rest, fun behind ↦ ?_⟩
    have hsmall := hnumber.1
    have hhigh : isHighHalf c.toNat = false := by
      rw [isHighHalf, Bool.and_eq_false_iff, decide_eq_false_iff_not, decide_eq_false_iff_not]
      omega
    have hlow : isLowHalf c.toNat = false := by
      rw [isLowHalf, Bool.and_eq_false_iff, decide_eq_false_iff_not, decide_eq_false_iff_not]
      omega
    rw [List.singleton_append, joinPieces?_code hhigh hlow, Char.ofNat_toNat]
  · refine ⟨[.code (0xD800 + (c.toNat - 0x10000) / 0x400),
      .code (0xDC00 + (c.toNat - 0x10000) % 0x400)], ?_, fun behind ↦ ?_⟩
    · rw [List.append_assoc, hhigh.pieces?_eq, hlow.pieces?_eq, Option.map_map]
      rfl
    · have hhigh : isHighHalf (0xD800 + (c.toNat - 0x10000) / 0x400) = true := by
        rw [isHighHalf, Bool.and_eq_true, decide_eq_true_eq, decide_eq_true_eq]
        omega
      have hlow : isLowHalf (0xDC00 + (c.toNat - 0x10000) % 0x400) = true := by
        rw [isLowHalf, Bool.and_eq_true, decide_eq_true_eq, decide_eq_true_eq]
        omega
      have hnumber : 0x10000 + (0xD800 + (c.toNat - 0x10000) / 0x400 - 0xD800) * 0x400 +
          (0xDC00 + (c.toNat - 0x10000) % 0x400 - 0xDC00) = c.toNat := by
        omega
      rw [List.cons_append, List.singleton_append, joinPieces?_pair hhigh hlow, hnumber,
        Char.ofNat_toNat]
  · refine ⟨[.char c], ?_, fun _ ↦ rfl⟩
    rw [List.singleton_append, pieces?]
    · rfl
    · exact hbackslash

/-! ### Strings -/

/-- The ways to write characters one behind the other. -/
inductive Spells : List Char → List Char → Prop
  | nil : Spells [] []
  | cons {c : Char} {cs written rest : List Char} (h : Written c written) (hrest : Spells cs rest) :
    Spells (c :: cs) (written ++ rest)

/-- What the writer makes of a text is one of the ways to write it. -/
theorem spells_escaped (cs : List Char) : Spells cs (cs.flatMap escapeChar) := by
  induction cs with
  | nil => exact .nil
  | cons c cs ih => exact .cons (written_escapeChar c) ih

namespace Spells

variable {cs : List Char}

/-- However a text is written, the scanner stays in the string. -/
theorem innerText (h : Spells cs written) : InnerText (written.flatMap String.utf8EncodeChar) := by
  induction h with
  | nil => exact .nil
  | cons hc _ ih =>
    rw [List.flatMap_append]
    exact hc.innerText.append ih

/-- However a text is written, it is read back. -/
theorem read (h : Spells cs written) : (pieces? written).bind joinPieces? = some cs := by
  suffices hread : ∃ pieces, pieces? written = some pieces ∧ joinPieces? pieces = some cs by
    obtain ⟨pieces, hpieces, hjoin⟩ := hread
    rw [hpieces, Option.bind_some, hjoin]
  induction h with
  | nil => exact ⟨[], by simp [pieces?], rfl⟩
  | @cons c cs written rest hc _ ih =>
    obtain ⟨pieces, hpieces, hjoin⟩ := ih
    obtain ⟨front, hfront, hread⟩ := hc.read rest
    refine ⟨front ++ pieces, ?_, ?_⟩
    · rw [hfront, hpieces]
      rfl
    · rw [hread, hjoin]
      rfl

end Spells

/-- The ways to write a string, with its quotes. -/
def WritesString (s : String) (bytes : List UInt8) : Prop :=
  ∃ written, Spells s.toList written ∧ bytes = quoted (written.flatMap String.utf8EncodeChar)

theorem WritesString.exists_innerText {s : String} {bytes : List UInt8} (h : WritesString s bytes) :
    ∃ inner, InnerText inner ∧ bytes = quoted inner := by
  obtain ⟨written, hspells, rfl⟩ := h
  exact ⟨_, hspells.innerText, rfl⟩

/-- **A string is read back in whatever way it is written.** -/
theorem WritesString.unquote?_eq {s : String} {bytes : List UInt8} (h : WritesString s bytes) :
    unquote? bytes = some s := by
  obtain ⟨written, hspells, rfl⟩ := h
  show ((Text.ofBytes? (written.flatMap String.utf8EncodeChar ++ [0x22]).dropLast).bind fun inner ↦
    ((pieces? inner.toList).bind joinPieces?).bind fun chars ↦ some (String.ofList chars)) = _
  rw [List.dropLast_concat, ← Text.bytesOf_ofList, Text.ofBytes?_bytesOf, Option.bind_some,
    String.toList_ofList, hspells.read, Option.bind_some, String.ofList_toList]

/-- What stands between the quotes of a written string. -/
def innerBytes (s : String) : List UInt8 :=
  Text.bytesOf (String.ofList (s.toList.flatMap escapeChar))

theorem bytesOf_quote (s : String) : Text.bytesOf (quote s) = quoted (innerBytes s) := by
  rw [quote, innerBytes, Text.bytesOf_ofList, Text.bytesOf_ofList, quoted, List.flatMap_append,
    List.flatMap_cons]
  rfl

theorem inString_innerBytes (s : String) : InString (innerBytes s) := by
  rw [innerBytes, Text.bytesOf_ofList]
  exact (spells_escaped s.toList).innerText.inString

theorem isValue_quote (s : String) : IsValue (Text.bytesOf (quote s)) := by
  rw [bytesOf_quote]
  exact isValue_quoted (inString_innerBytes s)

/-- The string that the writer makes is one of the ways to write it. -/
theorem writesString_quoted (s : String) : WritesString s (quoted (innerBytes s)) :=
  ⟨_, spells_escaped s.toList, by rw [innerBytes, Text.bytesOf_ofList]⟩

/-- **A written string is read back.** -/
theorem unquote?_quoted (s : String) : unquote? (quoted (innerBytes s)) = some s :=
  (writesString_quoted s).unquote?_eq

end Json

end ServerSetup
