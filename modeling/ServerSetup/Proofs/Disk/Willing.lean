import ServerSetup.Proofs.Disk.Inside

/-!
# A disk that refuses nothing

On a disk that refuses nothing, the files of a directory can be read, written, renamed and removed,
if their names and paths are acceptable. The only failure left is that a file is not there; so it is
as well as long as the directory is not made yet.

The laws of a directory say what follows from a call that succeeded. The facts of this module are
the other half: that the calls do succeed (`Willing`), so that statements about a store of files do
not only hold because every call fails. They ask for the names to be acceptable (`Path.Fits`), since
a path may be too long even on a willing disk.
-/

namespace ServerSetup

namespace Disk

variable {d d' : Disk} {path name source target : String} {place : Location}
  {files : String → Option (List UInt8)} {content : List UInt8}

/-- The disk refuses nothing. -/
def Willing (d : Disk) : Prop := ∀ action, d.refuses action = none

/-- A disk that refuses nothing still refuses nothing after directories were made. -/
theorem Grows.willing (h : d.Grows d') (hwilling : d.Willing) : d'.Willing := by
  intro action
  rw [h.refuses]
  exact hwilling action

namespace Holds

/-! ### Files of a directory -/

/-- No file in the directory is a link. -/
theorem noLink (h : d.Holds path place files) (target : String) :
    d.tree.get? (place ++ [name]) ≠ some (.link target) := by
  intro hlink
  rw [h.content, Option.map_eq_some_iff] at hlink
  obtain ⟨content, -, hentry⟩ := hlink
  cases hentry

/-- The path of an acceptable name leads to its place. -/
theorem locate_of_fits (h : d.Holds path place files) (hfits : Path.Fits path name) :
    d.locate (Path.join path name) = .ok (place ++ [name]) :=
  h.leadsTo.locate_of_fits hfits h.noLink

theorem locateSelf_of_fits (h : d.Holds path place files) (hfits : Path.Fits path name) :
    d.locateSelf (Path.join path name) = .ok (place ++ [name]) :=
  h.leadsTo.locateSelf_of_fits hfits

/-- A file is read if it is there, and else it is not found. -/
theorem read_of_willing (h : d.Holds path place files) (hwilling : d.Willing)
    (hfits : Path.Fits path name) :
    d.read (Path.join path name) = (files name).elim (.error .notFound) .ok := by
  rw [read, h.locate_of_fits hfits]
  dsimp only
  rw [h.content]
  rcases files name with - | content
  · rfl
  · dsimp only [Option.map_some]
    rw [hwilling]
    rfl

/-- A file can be written. -/
theorem write_of_willing (h : d.Holds path place files) (hwilling : d.Willing)
    (hfits : Path.Fits path name) (content : List UInt8) :
    ∃ d', Disk.write (Path.join path name) content d = (.ok (), d') ∧ d'.Willing := by
  rw [write_eq, create_eq (Path.endsWithSlash_join hfits.isFileName), h.locate_of_fits hfits]
  dsimp only
  rw [h.not_isDirectory, if_neg Bool.false_ne_true, hwilling]
  dsimp only
  rw [hwilling, hwilling]
  exact ⟨_, rfl, hwilling⟩

/-- A file that is there can be renamed. -/
theorem rename_of_willing (h : d.Holds path place files) (hwilling : d.Willing)
    (hsource : Path.Fits path source) (htarget : Path.Fits path target)
    (hfile : files source = some content) :
    ∃ d', Disk.rename (Path.join path source) (Path.join path target) d = (.ok (), d') ∧
      d'.Willing := by
  rw [rename_eq, h.locateSelf_of_fits hsource]
  dsimp only
  rw [h.content, hfile]
  dsimp only [Option.map_some]
  rw [h.locateSelf_of_fits htarget]
  dsimp only
  split
  · exact ⟨_, rfl, hwilling⟩
  · rw [h.not_isDirectory, if_neg Bool.false_ne_true, hwilling]
    exact ⟨_, rfl, hwilling⟩

/-- A file is removed, or it is not found. -/
theorem remove_of_willing (h : d.Holds path place files) (hwilling : d.Willing)
    (hfits : Path.Fits path name) :
    (∃ d', Disk.remove (Path.join path name) d = (.ok (), d') ∧ d'.Willing) ∨
      Disk.remove (Path.join path name) d = (.error .notFound, d) := by
  rw [remove_eq, h.locateSelf_of_fits hfits]
  dsimp only
  rw [h.content, Path.endsWithSlash_join hfits.isFileName, if_neg Bool.false_ne_true]
  rcases files name with - | content
  · exact .inr rfl
  · dsimp only [Option.map_some]
    rw [hwilling]
    exact .inl ⟨_, rfl, hwilling⟩

/-- A directory that is there is not made again. -/
theorem ensureDirectory_of_fits (h : d.Holds path place files) (hfits : Path.Fits path name) :
    Disk.ensureDirectory path d = (.ok (), d) :=
  h.leadsTo.ensureDirectory_of_fits hfits

/-! ### Before the directory is made -/

/-- Before the directory was made, a file that it does not hold was not found. -/
theorem read_of_grows (h : d'.Holds path place files) (hfits : Path.Fits path name)
    (hnone : files name = none) (hgrows : d.Grows d') (hd : d.WellFormed) :
    d.read (Path.join path name) = .error .notFound :=
  h.leadsTo.read_of_grows hfits (by rw [h.content, hnone]; rfl) hgrows hd

/-- Before the directory was made, a file that it does not hold could not be found to be removed. -/
theorem remove_of_grows (h : d'.Holds path place files) (hfits : Path.Fits path name)
    (hnone : files name = none) (hgrows : d.Grows d') (hd : d.WellFormed) :
    Disk.remove (Path.join path name) d = (.error .notFound, d) :=
  h.leadsTo.remove_of_grows hfits (by rw [h.content, hnone]; rfl) hgrows hd

end Holds

end Disk

end ServerSetup
