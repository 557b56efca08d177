import ServerSetup.Proofs.Catalog
import ServerSetup.Proofs.Disk.RealPath
import ServerSetup.Proofs.Path.Home
import ServerSetup.Proofs.Text.AsciiCase

/-!
# Spellings of a path

A path can be written with ASCII letters in the other case, with the other separator and with
separators repeated, and it can be given with more separators behind it and blanks around it. What
is added at the ends is taken off again, and the key of what remains is the same for all spellings
(`keyAfter_of_respelled`), so that they are one installation as long as they lead to nothing on the
disk (`addHomes_of_respelled`).

`Respelled` relates two texts letter by letter, with a row of separators for each separator, so any
combination of the changes is covered. `GivenAs` adds what may stand around such a text. The two
trims of the tool take that off again in one go only because a plain path ends in a character that
is neither blank, separator nor colon (`IsPlain`): the blanks stand outside the separators, and a
colon would keep a separator behind it.

The key is computed from left to right with one bit of memory, whether a separator came last. It is
the same for both texts by an induction over `Respelled` in which this bit is the same on both
sides.
-/

namespace ServerSetup

namespace Path

variable {c d : Char} {cs ds run : List Char} {path : String}

/-! ### Spellings -/

/-- The second text is the first one with letters in any case and with any separators, at least one,
in the place of each separator. -/
inductive Respelled : List Char → List Char → Prop
  | nil : Respelled [] []
  | char {c d : Char} {cs ds : List Char} (hc : isSeparator c = false)
      (hcase : d.toLower = c.toLower) (hrest : Respelled cs ds) : Respelled (c :: cs) (d :: ds)
  | separators {c : Char} {cs run ds : List Char} (hc : isSeparator c = true) (hrun : run ≠ [])
      (hseparators : ∀ s ∈ run, isSeparator s = true) (hrest : Respelled cs ds) :
      Respelled (c :: cs) (run ++ ds)

/-- A path as it stands for itself: there is something of it, no blanks are around it, and its end
is neither a separator nor a colon. -/
structure IsPlain (cs : List Char) : Prop where
  nonempty : cs ≠ []
  trimmed : Text.trim cs = cs
  noSeparator : ∀ c ∈ cs.getLast?, isSeparator c = false
  noColon : cs.getLast? ≠ some ':'

/-- A path is given as another one with separators behind it and blanks around both. -/
def GivenAs (cs : List Char) (path : String) : Prop :=
  ∃ front seps behind, path.toList = front ++ (cs ++ seps) ++ behind ∧
    (∀ c ∈ front, Text.isBlank c = true) ∧ (∀ c ∈ seps, isSeparator c = true) ∧
      ∀ c ∈ behind, Text.isBlank c = true

/-- A segment in any letter case. -/
theorem Respelled.segment (front front' : List Char) (h : Respelled cs ds)
    (hseparator : front.any isSeparator = false)
    (hcase : front'.map Char.toLower = front.map Char.toLower) :
    Respelled (front ++ cs) (front' ++ ds) := by
  induction front generalizing front' with
  | nil =>
    rw [List.map_nil, List.map_eq_nil_iff] at hcase
    rw [hcase]
    exact h
  | cons c front ih =>
    obtain ⟨d, front', rfl, hd, hrest⟩ := List.map_eq_cons_iff.1 hcase
    rw [List.any_cons, Bool.or_eq_false_iff] at hseparator
    exact .char hseparator.1 hd (ih front' hseparator.2 hrest)

/-! ### One key -/

/-- A character that is no separator is none in the other letter case, either. -/
theorem isSeparator_of_case (hcase : d.toLower = c.toLower) (hc : isSeparator c = false) :
    isSeparator d = false := by
  rw [← Bool.not_eq_true]
  intro hd
  -- a separator is its own small letter and no other character's
  have hlower : d.toLower = d ∧ d.isLower = false := by
    simp only [isSeparator, Bool.or_eq_true, beq_iff_eq] at hd
    rcases hd with rfl | rfl
    · decide
    · decide
  have hsame : c = d := Text.eq_of_toLower_eq (hcase.symm.trans hlower.1) hlower.2
  rw [hsame, hd] at hc
  cases hc

/-- A separator counts in a key unless it stands behind another one. -/
theorem keyAfter_separator (hc : isSeparator c = true) (behind : Bool) (cs : List Char) :
    keyAfter behind (c :: cs) = (if behind then [] else ['\\']) ++ keyAfter true cs := by
  rw [keyAfter, if_pos hc]
  split
  · rfl
  · rfl

/-- A row of separators counts once. -/
theorem keyAfter_separators (hrun : run ≠ []) (hseparators : ∀ s ∈ run, isSeparator s = true)
    (behind : Bool) (cs : List Char) :
    keyAfter behind (run ++ cs) = (if behind then [] else ['\\']) ++ keyAfter true cs := by
  induction run generalizing behind with
  | nil => exact absurd rfl hrun
  | cons s run ih =>
    rw [List.cons_append, keyAfter_separator (hseparators s List.mem_cons_self)]
    by_cases hnil : run = []
    · rw [hnil, List.nil_append]
    · rw [ih hnil fun s hs ↦ hseparators s (List.mem_cons_of_mem _ hs)]
      rfl

/-- **The key is the same for all spellings.** -/
theorem keyAfter_of_respelled (h : Respelled cs ds) (behind : Bool) :
    keyAfter behind ds = keyAfter behind cs := by
  induction h generalizing behind with
  | nil => rfl
  | @char c d cs ds hc hcase _ ih =>
    have hd := isSeparator_of_case hcase hc
    have hlower : Text.lowercase d = Text.lowercase c := by
      rw [← Text.lowercase_toLower d, hcase, Text.lowercase_toLower]
    rw [keyAfter, keyAfter, hc, hd, if_neg Bool.false_ne_true, if_neg Bool.false_ne_true, hlower,
      ih]
  | separators hc hrun hseparators _ ih =>
    rw [keyAfter_separators hrun hseparators, keyAfter_separator hc, ih]

/-! ### What is looked up -/

/-- A separator is not blank. -/
theorem isBlank_of_isSeparator (hc : isSeparator c = true) : Text.isBlank c = false := by
  simp only [isSeparator, Bool.or_eq_true, beq_iff_eq] at hc
  rcases hc with rfl | rfl
  · decide
  · decide

/-- What a spelling starts with is blank only if the path starts so. -/
theorem Respelled.isBlank_head? (h : Respelled cs ds)
    (hcs : ∀ c ∈ cs.head?, Text.isBlank c = false) :
    ∀ d ∈ ds.head?, Text.isBlank d = false := by
  intro d hd
  cases h with
  | nil => cases hd
  | @char c d' cs ds hc hcase _ =>
    cases hd
    rw [← Text.isBlank_toLower, hcase, Text.isBlank_toLower]
    exact hcs c rfl
  | @separators c cs run ds hc hrun hseparators _ =>
    refine isBlank_of_isSeparator (hseparators d ?_)
    obtain ⟨s, run, rfl⟩ := List.exists_cons_of_ne_nil hrun
    cases hd
    exact List.mem_cons_self

/-- What a spelling ends with is the last character of the path in any case, if that is no
separator. -/
theorem Respelled.getLast? (h : Respelled cs ds) (hlast : cs.getLast? = some c)
    (hc : isSeparator c = false) : ∃ d, ds.getLast? = some d ∧ d.toLower = c.toLower := by
  induction h with
  | nil => cases hlast
  | @char c' d cs ds hc' hcase hrest ih =>
    by_cases hnil : cs = []
    · subst hnil
      cases hlast
      cases hrest
      exact ⟨d, rfl, hcase⟩
    · obtain ⟨a, as, rfl⟩ := List.exists_cons_of_ne_nil hnil
      rw [List.getLast?_cons_cons] at hlast
      obtain ⟨e, he, hecase⟩ := ih hlast
      refine ⟨e, ?_, hecase⟩
      rw [List.getLast?_cons, he]
      rfl
  | @separators c' cs run ds hc' hrun hseparators hrest ih =>
    by_cases hnil : cs = []
    · subst hnil
      -- The text ends with this separator, against what is assumed of its last character.
      have hsame : c' = c := Option.some.inj hlast
      rw [hsame, hc] at hc'
      cases hc'
    · obtain ⟨a, as, rfl⟩ := List.exists_cons_of_ne_nil hnil
      rw [List.getLast?_cons_cons] at hlast
      obtain ⟨e, he, hecase⟩ := ih hlast
      refine ⟨e, ?_, hecase⟩
      rw [List.getLast?_append, he]
      rfl

namespace IsPlain

variable (h : IsPlain cs)

include h

/-- A plain path has a last character, which is no blank, no separator and no colon. -/
theorem exists_last : ∃ c, cs.getLast? = some c ∧ Text.isBlank c = false ∧
    isSeparator c = false ∧ c ≠ ':' := by
  have hlast := List.getLast?_eq_some_getLast h.nonempty
  exact ⟨_, hlast, Text.isBlank_getLast?_of_trim h.trimmed _ hlast, h.noSeparator _ hlast,
    fun hcolon ↦ h.noColon (hcolon ▸ hlast)⟩

/-- A spelling of a plain path is plain. -/
theorem respelled (hspelled : Respelled cs ds) : IsPlain ds := by
  obtain ⟨c, hc, hblank, hseparator, hcolon⟩ := h.exists_last
  obtain ⟨d, hd, hcase⟩ := hspelled.getLast? hc hseparator
  have hlast {e : Char} (he : e ∈ ds.getLast?) : e = d := Option.some.inj (he.symm.trans hd)
  have hhead := hspelled.isBlank_head? (Text.isBlank_head?_of_trim h.trimmed)
  refine ⟨?_, Text.trim_eq_self hhead ?_, ?_, ?_⟩
  · rintro rfl
    cases hd
  · intro e he
    rw [hlast he, ← Text.isBlank_toLower, hcase, Text.isBlank_toLower]
    exact hblank
  · intro e he
    rw [hlast he]
    exact isSeparator_of_case hcase hseparator
  · intro he
    have hlower : c.toLower = ':' := by
      rw [← hcase, ← hlast he]
      decide
    exact hcolon (Text.eq_of_toLower_eq hlower (by decide))

/-- Of a plain path that is given with more at its ends, only the path is looked up. -/
theorem written_eq (hgiven : GivenAs cs path) : written path = String.ofList cs := by
  obtain ⟨c, hc, -, hseparator, hcolon⟩ := h.exists_last
  obtain ⟨front, seps, behind, hpath, hfront, hseps, hbehind⟩ := hgiven
  have hend : Text.trimEnd seps = seps := Text.trimEnd_eq_self fun e he ↦
    isBlank_of_isSeparator (hseps e (List.mem_of_getLast? he))
  have htrim : Text.trim (cs ++ seps) = cs ++ seps := by
    rw [Text.trim_append h.nonempty h.trimmed, hend]
  rw [written, hpath, Text.trim_padded hfront hbehind, htrim,
    trimSeparators_append hc hseparator hcolon hseps]

end IsPlain

end Path

/-! ### One installation -/

open ServerSetup.Path

variable {disk : Disk} {base spelled spelled' : List Char} {path path' : String}

/-- A spelling that leads to nothing has the key of the path. -/
theorem key_canonical_of_respelled (hbase : IsPlain base) (hspelled : Respelled base spelled)
    (hgiven : GivenAs spelled path) (hnone : disk.pathExists (String.ofList spelled) = false) :
    (disk.canonical path).key = comparisonKey (String.ofList base) := by
  have hwritten := (hbase.respelled hspelled).written_eq hgiven
  rw [Disk.canonical_of_none, hwritten, HomePath.key, comparisonKey, String.toList_ofList,
    keyAfter_of_respelled hspelled, comparisonKey, String.toList_ofList]
  rw [hwritten]
  simpa [Disk.pathExists] using hnone

/-- **All spellings of a path are one installation,** as long as none of them leads to anything.
Adding two of them to a catalog is adding one. -/
theorem addHomes_of_respelled (hbase : IsPlain base) (hspelled : Respelled base spelled)
    (hspelled' : Respelled base spelled') (hgiven : GivenAs spelled path)
    (hgiven' : GivenAs spelled' path') (hnone : disk.pathExists (String.ofList spelled) = false)
    (hnone' : disk.pathExists (String.ofList spelled') = false) :
    (disk.canonical path).same (disk.canonical path') = true ∧
      (∀ c : Catalog, c.addHomes [disk.canonical path, disk.canonical path'] =
        c.addHomes [disk.canonical path]) ∧
      (Catalog.empty.addHomes [disk.canonical path, disk.canonical path']).installations =
        [⟨disk.canonical path, []⟩] := by
  have hkey := key_canonical_of_respelled hbase hspelled hgiven hnone
  have hkey' := key_canonical_of_respelled hbase hspelled' hgiven' hnone'
  have hadd (c : Catalog) : c.addHomes [disk.canonical path, disk.canonical path'] =
      c.addHomes [disk.canonical path] := by
    have hmem : (disk.canonical path').key ∈ (c.addHomes [disk.canonical path]).keys :=
      Catalog.mem_keys_addHomes.2 (.inr ⟨_, List.mem_singleton_self _, hkey.trans hkey'.symm⟩)
    obtain ⟨n, stored, hexisting, -⟩ :=
      Catalog.exists_addInstallation_of_mem (i := ⟨disk.canonical path', []⟩) hmem
    rw [← List.singleton_append, Catalog.addHomes_append, Catalog.addHomes_cons, hexisting,
      Catalog.addHomes_nil]
  refine ⟨beq_iff_eq.2 (hkey.trans hkey'.symm), hadd, ?_⟩
  rw [hadd]
  rfl

/-- A path with a slash and in capitals, and one with its separator repeated and more behind it, in
blanks. -/
theorem addHomes_of_respelled_resin :
    let disk : Disk := { tree := .empty, workDirectory := [] }
    IsPlain "C:\\Resin".toList ∧ disk.pathExists "c:/RESIN" = false ∧
      disk.pathExists "C:\\\\resin" = false ∧
      (disk.canonical "c:/RESIN").same (disk.canonical "\t C:\\\\resin/\\ ") = true ∧
      (Catalog.empty.addHomes [disk.canonical "c:/RESIN",
        disk.canonical "\t C:\\\\resin/\\ "]).installations =
          [⟨disk.canonical "c:/RESIN", []⟩] := by
  intro disk
  have hbase : IsPlain "C:\\Resin".toList := by
    refine ⟨by decide, by decide, ?_, by decide⟩
    rintro c ⟨rfl⟩
    rfl
  have hvolume (volume : Char) (hcase : volume.toLower = 'c') {run name : List Char}
      (hrun : run ≠ []) (hseparators : ∀ s ∈ run, isSeparator s = true)
      (hname : Respelled "Resin".toList name) :
      Respelled "C:\\Resin".toList (volume :: ':' :: (run ++ name)) :=
    .char rfl hcase (.char rfl rfl (.separators rfl hrun hseparators hname))
  have hslash : Respelled "C:\\Resin".toList "c:/RESIN".toList :=
    hvolume 'c' rfl (List.cons_ne_nil '/' []) (List.all_eq_true.1 rfl)
      (.segment "Resin".toList "RESIN".toList .nil (by decide) (by decide))
  have hrepeated : Respelled "C:\\Resin".toList "C:\\\\resin".toList :=
    hvolume 'C' rfl (List.cons_ne_nil '\\' ['\\']) (List.all_eq_true.1 rfl)
      (.segment "Resin".toList "resin".toList .nil (by decide) (by decide))
  have hgiven : GivenAs "c:/RESIN".toList "c:/RESIN" :=
    ⟨[], [], [], by decide +kernel, nofun, nofun, nofun⟩
  have hgiven' : GivenAs "C:\\\\resin".toList "\t C:\\\\resin/\\ " :=
    ⟨['\t', ' '], ['/', '\\'], [' '], by decide +kernel, List.all_eq_true.1 rfl,
      List.all_eq_true.1 rfl, List.all_eq_true.1 rfl⟩
  have hslashed : disk.pathExists "c:/RESIN" = false := by
    have hsteps : Path.steps "c:/RESIN" = ["c:", "RESIN"] := by decide +kernel
    rw [Disk.pathExists, Disk.find?_bare hsteps (by decide) (by decide) (by decide)]
    rfl
  have hdoubled : disk.pathExists "C:\\\\resin" = false := by
    have hsteps : Path.steps "C:\\\\resin" = ["C:\\\\resin"] := by decide +kernel
    rw [Disk.pathExists, Disk.find?_bare hsteps (by decide) (by decide) (by decide)]
    rfl
  obtain ⟨hsame, -, hone⟩ :=
    addHomes_of_respelled hbase hslash hrepeated hgiven hgiven' hslashed hdoubled
  exact ⟨hbase, hslashed, hdoubled, hsame, hone⟩

end ServerSetup
