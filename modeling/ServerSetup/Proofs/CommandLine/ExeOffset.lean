import ServerSetup.Proofs.CommandLine.Executable
import ServerSetup.Proofs.Text.Utf8

/-!
# The place of the first `.exe` in bytes

The end of the executable may be searched in the bytes of a text with small letters: the offset that
is found there is the place of the cut in the text itself (`exeBytes?_eq`). Small letters take as
many bytes as the letters they stand for, and the bytes of `.exe` occur in the bytes of a text only
where its characters do, so the cut is between two characters.

Two things could go wrong in such a search. An offset in the text with small letters might be
another one in the text itself; it is not, since only ASCII letters are changed and each is one byte
(`utf8ByteSize_eq_lowered`). And the four bytes of the word might be found across the bytes of other
characters; they are not, since every byte of a character that is not ASCII is at least 128.
`CutBehindExe` states the cut in terms of strings alone, as it is described and not as it is
computed: the shortest part at the front that ends in `.exe` in any letter case, and the rest.
-/

namespace ServerSetup.CommandLine

open ServerSetup.Text

/-! ### Searching bytes -/

/-- The offset at which a word stands first in a row of bytes. -/
def offset? (word : List UInt8) : List UInt8 → Option Nat
  | [] => if word.isEmpty then some 0 else none
  | b :: bs => if word.isPrefixOf (b :: bs) then some 0 else (offset? word bs).map (· + 1)

/-- A word that stands at the front is found there. -/
theorem offset?_of_isPrefixOf {word bs : List UInt8} (h : word.isPrefixOf bs = true) :
    offset? word bs = some 0 := by
  cases bs with
  | nil =>
    rw [List.isPrefixOf_iff_prefix, List.prefix_nil] at h
    rw [h]
    rfl
  | cons b bs => rw [offset?, if_pos h]

/-- A word does not start in front of its first byte. -/
theorem offset?_append {first : UInt8} {front : List UInt8} (h : ∀ b ∈ front, b ≠ first)
    (word bs : List UInt8) : offset? (first :: word) (front ++ bs) =
      (offset? (first :: word) bs).map (· + front.length) := by
  induction front with
  | nil => simp
  | cons b front ih =>
    have hb : (first == b) = false := beq_eq_false_iff_ne.2 (h b List.mem_cons_self).symm
    have hfront : ∀ c ∈ front, c ≠ first := fun c hc ↦ h c (List.mem_cons_of_mem _ hc)
    rw [List.cons_append, offset?, List.isPrefixOf_cons_cons, hb, Bool.false_and,
      if_neg Bool.false_ne_true, ih hfront, Option.map_map]
    rfl

/-! ### Small letters -/

/-- Small letters take as many bytes as the letters they stand for. -/
theorem length_utf8EncodeChar_toLower (c : Char) :
    (String.utf8EncodeChar c.toLower).length = (String.utf8EncodeChar c).length := by
  rcases toLower_ascii_or_eq c with ⟨hc, hlower⟩ | hsame
  · rw [utf8EncodeChar_of_ascii hc, utf8EncodeChar_of_ascii hlower]
    rfl
  · rw [hsame]

/-! ### The cut in bytes -/

/-- A text with the small letters of ASCII. -/
def lowered (cs : List Char) : String := String.ofList (cs.map Char.toLower)

/-- The bytes of a text in small letters are those of its letters, one after the other. -/
theorem bytesOf_lowered_cons (c : Char) (cs : List Char) :
    bytesOf (lowered (c :: cs)) = String.utf8EncodeChar c.toLower ++ bytesOf (lowered cs) := by
  rw [lowered, lowered, bytesOf_ofList, bytesOf_ofList, List.map_cons, List.flatMap_cons]

theorem utf8ByteSize_cons (c : Char) (cs : List Char) :
    (String.ofList (c :: cs)).utf8ByteSize =
      (String.utf8EncodeChar c.toLower).length + (String.ofList cs).utf8ByteSize := by
  have hlength (s : String) : (bytesOf s).length = s.utf8ByteSize := rfl
  rw [← hlength, ← hlength, bytesOf_ofList, bytesOf_ofList, List.flatMap_cons, List.length_append,
    length_utf8EncodeChar_toLower]

/-- A text has as many bytes as it has in small letters. -/
theorem utf8ByteSize_eq_lowered (cs : List Char) :
    (String.ofList cs).utf8ByteSize = (lowered cs).utf8ByteSize := by
  induction cs with
  | nil => rfl
  | cons c cs ih =>
    have hlowered : lowered (c :: cs) = String.ofList (c.toLower :: cs.map Char.toLower) := rfl
    rw [hlowered, utf8ByteSize_cons, utf8ByteSize_cons, length_utf8EncodeChar_toLower,
      length_utf8EncodeChar_toLower, length_utf8EncodeChar_toLower, ih, lowered]

/-- The bytes of `.exe` are in front exactly if its characters are, in any letter case. -/
theorem isPrefixOf_bytesOf_lowered (cs : List Char) :
    (bytesOf ".exe").isPrefixOf (bytesOf (lowered cs)) =
      startsIgnoringCase ['.', 'e', 'x', 'e'] cs := by
  have hascii : ∀ c ∈ ".exe".toList, c.toNat < 0x80 := by simp
  rw [Bool.eq_iff_iff, List.isPrefixOf_iff_prefix, lowered, bytesOf_eq ".exe", bytesOf_ofList,
    flatMap_utf8EncodeChar_prefix_iff hascii, startsIgnoringCase_exe_iff, List.map_take, eq_comm]
  exact List.prefix_iff_eq_take

/-- Where `.exe` is not in front, it starts neither at the first byte of the first character nor at
those that complete it. -/
theorem offset?_lowered_cons {c : Char} {cs : List Char}
    (h : startsIgnoringCase ['.', 'e', 'x', 'e'] (c :: cs) = false) :
    offset? (bytesOf ".exe") (bytesOf (lowered (c :: cs))) =
      (offset? (bytesOf ".exe") (bytesOf (lowered cs))).map
        (· + (String.utf8EncodeChar c.toLower).length) := by
  have hprefix := isPrefixOf_bytesOf_lowered (c :: cs)
  obtain ⟨b, bs, hbytes⟩ := List.exists_cons_of_ne_nil (utf8EncodeChar_ne_nil c.toLower)
  have hdot : ∀ b' ∈ bs, b' ≠ 0x2e := by
    rintro b' hb' rfl
    have hhigh : 0x80 ≤ (0x2e : UInt8).toNat :=
      toNat_of_mem_tail_utf8EncodeChar (by rw [hbytes]; exact hb')
    exact absurd hhigh (by decide)
  have hword : bytesOf ".exe" = 0x2e :: (bytesOf ".exe").tail := by decide
  rw [h, bytesOf_lowered_cons, hbytes, List.cons_append] at hprefix
  rw [bytesOf_lowered_cons, hbytes, List.cons_append, offset?, hprefix, if_neg Bool.false_ne_true,
    hword, offset?_append hdot, Option.map_map]
  rfl

/-- **The cut is at the offset that is found in the bytes with small letters.** -/
theorem exeBytes?_eq (text : String) :
    exeBytes? text = (offset? (bytesOf ".exe") (bytesOf (lowered text.toList))).map (· + 4) := by
  show (cutAfterExe text.toList).map (fun cut ↦ (String.ofList cut.1).utf8ByteSize) = _
  generalize text.toList = cs
  induction cs with
  | nil => rfl
  | cons c cs ih =>
    rw [cutAfterExe]
    by_cases hstart : startsIgnoringCase ['.', 'e', 'x', 'e'] (c :: cs) = true
    · have hfront : lowered ((c :: cs).take 4) = ".exe" := by
        rw [lowered, startsIgnoringCase_exe_iff.1 hstart]
      have hprefix := (isPrefixOf_bytesOf_lowered (c :: cs)).trans hstart
      rw [if_pos hstart, offset?_of_isPrefixOf hprefix, Option.map_some, Option.map_some,
        utf8ByteSize_eq_lowered, hfront]
      rfl
    · rw [if_neg hstart, offset?_lowered_cons (Bool.eq_false_iff.2 hstart), Option.map_map,
        Option.map_map]
      -- both sides are what is found behind `c`, moved by the bytes of `c`
      have hmoved (cut : List Char × List Char) : (String.ofList (c :: cut.1)).utf8ByteSize =
          (String.ofList cut.1).utf8ByteSize + (String.utf8EncodeChar c.toLower).length :=
        (utf8ByteSize_cons c cut.1).trans (Nat.add_comm _ _)
      have hoffset := congrArg
        (Option.map (· + (String.utf8EncodeChar c.toLower).length)) ih
      rw [Option.map_map, Option.map_map] at hoffset
      refine Eq.trans ?_ (hoffset.trans ?_)
      · exact congrArg (Option.map · _) (funext hmoved)
      · exact congrArg (Option.map · _) (funext fun n ↦ Nat.add_right_comm n 4 _)

/-- A record is cut right behind its first `.exe`: what is in front is the shortest prefix that ends
so, and as long in bytes as the search in the small letters says. -/
structure CutBehindExe (record stem rest : String) : Prop where
  append : record = stem ++ rest
  endsInExe : EndsInExe stem.toList
  first : ∀ front, front <+: stem.toList → EndsInExe front → front = stem.toList
  offset : (offset? (bytesOf ".exe") (bytesOf (lowered record.toList))).map (· + 4) =
    some stem.utf8ByteSize

/-- The cut of the specification, in terms of strings, is the one that the tool makes. -/
theorem cutBehindExe_iff {record stem rest : String} : CutBehindExe record stem rest ↔
    cutAfterExe record.toList = some (stem.toList, rest.toList) := by
  constructor
  · intro h
    refine cutAfterExe_eq_some_iff.2 ⟨?_, h.endsInExe, h.first⟩
    rw [h.append, String.toList_append]
  · intro h
    obtain ⟨happend, hends, hfirst⟩ := cutAfterExe_eq_some_iff.1 h
    refine ⟨?_, hends, hfirst, ?_⟩
    · rw [← String.toList_inj, happend, String.toList_append]
    · rw [← exeBytes?_eq, exeBytes?, h, Option.map_some]
      exact congrArg (fun s ↦ some s.utf8ByteSize) String.ofList_toList

/-- A record that contains `.exe`, in any letter case, has a cut. -/
theorem exists_cutBehindExe {record : String}
    (h : ['.', 'e', 'x', 'e'] <:+: record.toList.map Char.toLower) :
    ∃ stem rest, CutBehindExe record stem rest := by
  obtain ⟨⟨exe, rest⟩, hcut⟩ := Option.isSome_iff_exists.1 (isSome_cutAfterExe.2 h)
  refine ⟨String.ofList exe, String.ofList rest, cutBehindExe_iff.2 ?_⟩
  rw [hcut, String.toList_ofList, String.toList_ofList]

/-- What an update keeps of a record: it is cut behind the first `.exe`, or behind the quote that
closes it there. -/
theorem CutBehindExe.executablePart?_eq {record stem rest : String}
    (h : CutBehindExe record stem rest) : executablePart? record = some
      (if record.toList.head? = some '"' ∧ rest.toList.head? = some '"' then stem ++ "\""
        else stem) := by
  rw [CommandLine.executablePart?_eq (cutBehindExe_iff.1 h), Option.some_inj]
  split
  · rw [← String.toList_inj]
    simp
  · exact String.ofList_toList

end ServerSetup.CommandLine
