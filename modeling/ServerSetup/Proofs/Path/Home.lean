import ServerSetup.Proofs.Disk.RealPath
import ServerSetup.Proofs.Path.Segment
import ServerSetup.Proofs.Text.Trim

/-!
# The text of a canonical path

A path is looked up as it is written, without the blanks around it and the separators at its end
(`Path.written`). The canonical path is this text itself if it leads to nothing, and otherwise the
path of the place it leads to, again without separators at the end.

The blanks are trimmed before the separators are dropped, and only once. So what is written may end
in a blank again, one that stood before a separator. It never starts with one
(`isBlank_head?_written`), and it has no separators left to drop (`trimSeparators_written`); the
same holds of the path that is shown. The text that is shown for a home is the canonical path, and
its key is made of it by forgetting letter case and the kind and number of separators.
-/

namespace ServerSetup

namespace Path

variable {path : String}

/-- A path without the blanks around it and without the separators at its end. -/
def written (path : String) : String :=
  String.ofList (trimSeparators (Text.trim path.toList))

theorem toList_written (path : String) :
    (written path).toList = trimSeparators (Text.trim path.toList) :=
  String.toList_ofList

/-- What is looked up does not start with a blank. -/
theorem isBlank_head?_written (path : String) :
    ∀ c ∈ (written path).toList.head?, Text.isBlank c = false := by
  rw [toList_written, head?_trimSeparators]
  exact Text.isBlank_head?_trim path.toList

/-- What is looked up has no separators to drop. -/
theorem trimSeparators_written (path : String) :
    trimSeparators (written path).toList = (written path).toList := by
  rw [toList_written, trimSeparators_trimSeparators]

end Path

namespace Disk

variable {d : Disk} {path name : String} {place : Location} {entry : Entry} {rest : List String}

/-- The canonical path, in terms of where the written path leads. -/
theorem canonical_eq (d : Disk) (path : String) : d.canonical path =
    ⟨String.ofList (Path.trimSeparators (d.resolved (Path.written path)).toList)⟩ :=
  rfl

theorem resolved_of_none (h : d.find? path = none) : d.resolved path = path := by
  rw [resolved, h]

theorem resolved_of_find? (h : d.find? path = some (place, entry)) :
    d.resolved path = place.path := by
  rw [resolved, h]

/-- A path that leads to nothing is shown as it is written. -/
theorem canonical_of_none (h : d.find? (Path.written path) = none) :
    d.canonical path = ⟨Path.written path⟩ := by
  rw [canonical_eq, resolved_of_none h, Path.trimSeparators_written, String.ofList_toList]

/-- So it is with every path on a disk with nothing but the root. -/
theorem canonical_bare {shown : String} (hwritten : Path.written path = shown)
    (hsteps : Path.steps shown = name :: rest) (hdot : name ≠ ".") (hdots : name ≠ "..")
    (hlength : ¬ FileTree.maxNameBytes < name.utf8ByteSize) :
    Disk.canonical { tree := .empty, workDirectory := [] } path = ⟨shown⟩ := by
  subst hwritten
  exact canonical_of_none (find?_bare hsteps hdot hdots hlength)

/-- A path that leads to something is shown as the path of the place. -/
theorem canonical_of_find? (h : d.find? (Path.written path) = some (place, entry)) :
    d.canonical path = ⟨String.ofList (Path.trimSeparators place.path.toList)⟩ := by
  rw [canonical_eq, resolved_of_find? h]

/-- A canonical path has no separators to drop. -/
theorem trimSeparators_shown (d : Disk) (path : String) :
    Path.trimSeparators (d.canonical path).shown.toList = (d.canonical path).shown.toList := by
  rw [canonical_eq, String.toList_ofList, Path.trimSeparators_trimSeparators]

end Disk

end ServerSetup
