import ServerSetup.Catalog
import ServerSetup.Proofs.Path.Home
import ServerSetup.Proofs.Search

/-!
# Canonical paths made canonical

A home is stored by the text of its canonical path and made canonical again when it is compared. The
second pass gives the same as the first one unless a blank that the first pass uncovered at the end
is trimmed away, or the path of a place lost separators that belong to its last name
(`canonical_shown_iff`). Blanks are trimmed before separators are dropped, so that a separator at
the end shelters a blank in front of it (`canonical_sheltered_blank`).

The equivalence is split at what the second pass looks up. Where that leads to nothing, the second
canonical path is the text that was looked up, and it is the first one unless a blank was trimmed
away. Where it leads to a place, the second canonical path is that of the place, which is to be the
first one again. That the first pass found the same place (`canonical_shown_of_resolved`) is enough
for this, and is how a home usually stays; it uses that following the path of a place leads there
again.
-/

namespace ServerSetup

namespace Path

variable {path : String}

/-- Whether a path ends with a blank. -/
def endsWithBlank (path : String) : Bool := path.toList.getLast?.any Text.isBlank

/-- A path does not end with a blank if its last character is none. -/
theorem endsWithBlank_eq_false_iff :
    endsWithBlank path = false ↔ ∀ c ∈ path.toList.getLast?, Text.isBlank c = false := by
  rw [endsWithBlank]
  rcases path.toList.getLast? with - | c
  · simp
  · simp

/-- What is looked up is shorter if something is trimmed away at the end. -/
theorem written_eq_self_iff (hhead : ∀ c ∈ path.toList.head?, Text.isBlank c = false)
    (hseps : trimSeparators path.toList = path.toList) :
    written path = path ↔ endsWithBlank path = false := by
  rw [endsWithBlank_eq_false_iff, ← String.toList_inj, toList_written]
  constructor
  · intro hwritten
    obtain ⟨seps, htrim, -⟩ := exists_trimSeparators_append (Text.trim path.toList)
    obtain ⟨blanks, hpath, -⟩ := Text.exists_trimEnd_append path.toList
    rw [hwritten, Text.trim, Text.trimStart_eq_self hhead] at htrim
    -- between the path and what is looked up there is neither a separator nor a blank
    have hblanks : blanks = [] := by
      have hlength := congrArg List.length hpath
      rw [htrim, List.length_append, List.length_append] at hlength
      exact List.eq_nil_of_length_eq_zero (by omega)
    rw [hblanks, List.append_nil] at hpath
    have hlast := Text.isBlank_getLast?_trim path.toList
    rwa [Text.trim, Text.trimStart_eq_self hhead, ← hpath] at hlast
  · intro hlast
    rw [Text.trim_eq_self hhead hlast, hseps]

end Path

namespace Disk

variable {d : Disk} {path : String}

/-- A canonical path does not start with a blank. -/
theorem isBlank_head?_shown (d : Disk) (path : String) :
    ∀ c ∈ (d.canonical path).shown.toList.head?, Text.isBlank c = false := by
  rw [canonical_eq, String.toList_ofList, Path.head?_trimSeparators]
  rcases hfind : d.find? (Path.written path) with - | ⟨place, entry⟩
  · rw [resolved_of_none hfind]
    exact Path.isBlank_head?_written path
  · rw [resolved_of_find? hfind]
    have hslash : place.path.toList.head? = some '/' :=
      beq_iff_eq.1 (Location.isAbsolute_path place)
    rw [hslash]
    rintro c ⟨rfl⟩
    decide

section

variable (hd : d.WellFormed) (hwork : d.workDirectory.IsNamed)

include hd hwork

/-- What a path was resolved to is made canonical without any change, if nothing is trimmed. -/
theorem canonical_shown_of_resolved (hblank : Path.endsWithBlank (d.canonical path).shown = false)
    (hresolved : d.resolved (Path.written path) = (d.canonical path).shown) :
    d.canonical (d.canonical path).shown = d.canonical path := by
  have hwritten : Path.written (d.canonical path).shown = (d.canonical path).shown :=
    (Path.written_eq_self_iff (d.isBlank_head?_shown path) (d.trimSeparators_shown path)).2 hblank
  rw [canonical_eq, hwritten, ← hresolved, resolved_resolved hd hwork, ← canonical_eq]

/-- **Where a canonical path is made canonical again, it stays as it is** exactly in two cases:
either it does not end with a blank, and is what the path was resolved to or leads to nothing; or
what is looked up for it leads to a place whose path is the canonical path. A service that stores
the text of a canonical path that stays is one of the services of the home. -/
theorem canonical_shown_iff (path : String) :
    let home := d.canonical path
    (d.canonical home.shown = home ↔
      (Path.endsWithBlank home.shown = false ∧
        (d.resolved (Path.written path) = home.shown ∨ d.pathExists home.shown = false)) ∨
      ∃ place entry, d.find? (Path.written home.shown) = some (place, entry) ∧
        String.ofList (Path.trimSeparators place.path.toList) = home.shown) ∧
    (d.canonical home.shown = home → ∀ (c : Catalog) (s : ServiceProfile), s ∈ c.services →
      s.home = home.shown → s ∈ c.servicesOf d home) := by
  intro home
  have hwritten : Path.written home.shown = home.shown ↔ Path.endsWithBlank home.shown = false :=
    Path.written_eq_self_iff (d.isBlank_head?_shown path) (d.trimSeparators_shown path)
  refine ⟨?_, fun hstays c s hs hhome ↦ ?_⟩
  -- The second round looks up the text that the first one shows, less its blanks at the end.
  · rcases hfind : d.find? (Path.written home.shown) with - | ⟨place, entry⟩
    · rw [canonical_of_none hfind]
      constructor
      · intro heq
        have hsame : Path.written home.shown = home.shown := congrArg HomePath.shown heq
        refine .inl ⟨hwritten.1 hsame, .inr ?_⟩
        rw [pathExists, ← hsame, hfind]
        rfl
      · rintro (⟨hblank, -⟩ | ⟨_, _, h, -⟩)
        · rw [hwritten.2 hblank]
        · cases h
    · rw [canonical_of_find? hfind]
      constructor
      · exact fun heq ↦ .inr ⟨place, entry, rfl, congrArg HomePath.shown heq⟩
      · rintro (⟨hblank, hkept⟩ | ⟨_, _, h, heq⟩)
        · rcases hkept with hresolved | hmissing
          · rw [← canonical_of_find? hfind]
            exact canonical_shown_of_resolved hd hwork hblank hresolved
          · rw [pathExists, ← hwritten.2 hblank, hfind] at hmissing
            cases hmissing
        · cases h
          rw [heq]
  · refine List.mem_filter.2 ⟨hs, ?_⟩
    rw [hhome, hstays]
    exact beq_self_eq_true _

end

/-- A home that is reached through a link is stored by the path of its place. -/
theorem canonical_shown_through_link :
    Search.sampleDisk.WellFormed ∧ Search.sampleDisk.workDirectory.IsNamed ∧
      Search.sampleDisk.canonical "/vol/RESIN-4" = ⟨"/opt"⟩ ∧
      Search.sampleDisk.canonical "/opt" = ⟨"/opt"⟩ := by
  have hd : Search.sampleDisk.WellFormed := ⟨FileTree.wellFormed_of_forall (by decide), rfl⟩
  have hwork : Search.sampleDisk.workDirectory.IsNamed := Location.isNamed_nil
  have hwritten : Path.written "/vol/RESIN-4" = "/vol/RESIN-4" := by decide +kernel
  have hresolved : Search.sampleDisk.resolved (Path.written "/vol/RESIN-4") = "/opt" := by
    rw [hwritten, resolved_of_find? Search.find?_sampleDisk]
    decide +kernel
  have hhome : Search.sampleDisk.canonical "/vol/RESIN-4" = ⟨"/opt"⟩ := by
    rw [canonical_eq, hresolved]
    decide +kernel
  have hiff := (canonical_shown_iff hd hwork "/vol/RESIN-4").1
  rw [hhome] at hiff
  exact ⟨hd, hwork, hhome, hiff.2 (.inl ⟨by decide, .inl hresolved⟩)⟩

/-- A separator at the end shelters a blank: the path is shown with the blank, and the second pass
trims it away. So a service that stores this home is not one of its services. -/
theorem canonical_sheltered_blank :
    let disk : Disk := { tree := .empty, workDirectory := [] }
    let home := disk.canonical "C:\\Resin \\"
    home = ⟨"C:\\Resin "⟩ ∧ disk.canonical home.shown = ⟨"C:\\Resin"⟩ ∧
      (disk.canonical home.shown).key ≠ home.key ∧
      Catalog.servicesOf { services := [{ name := "web", home := home.shown }] } disk home =
        [] := by
  intro disk home
  have hhome : home = ⟨"C:\\Resin "⟩ := by
    have hwritten : Path.written "C:\\Resin \\" = "C:\\Resin " := by decide +kernel
    have hsteps : Path.steps "C:\\Resin " = ["C:\\Resin "] := by decide +kernel
    exact canonical_bare hwritten hsteps (by decide) (by decide) (by decide)
  have hagain : disk.canonical "C:\\Resin " = ⟨"C:\\Resin"⟩ := by
    have hwritten : Path.written "C:\\Resin " = "C:\\Resin" := by decide +kernel
    have hsteps : Path.steps "C:\\Resin" = ["C:\\Resin"] := by decide +kernel
    exact canonical_bare hwritten hsteps (by decide) (by decide) (by decide)
  rw [hhome]
  refine ⟨rfl, hagain, ?_, ?_⟩
  · rw [hagain]
    decide +kernel
  · rw [Catalog.servicesOf, List.filter_cons_of_neg, List.filter_nil]
    rw [hagain]
    decide +kernel

end Disk

end ServerSetup
