/-!
# Segments of a path in a service record

Paths in service records separate their segments with a backslash or a slash. This module cuts such
a path, read as plain text, into the segment at its end and the path above it. Separators at the end
do not count, except the one that makes a volume root (`C:\`) or is the whole path (`/`).
-/

namespace ServerSetup.Path

/-- A backslash or a slash. -/
def isSeparator (c : Char) : Bool := c == '\\' || c == '/'

/-- Drops separators at the front of a reversed path, up to the last one and up to one that follows
a colon. -/
def dropFinalSeparators : List Char → List Char
  | a :: b :: rest =>
    if isSeparator a && b != ':' then dropFinalSeparators (b :: rest) else a :: b :: rest
  | cs => cs

/-- A path without the separators at its end, keeping a volume root and the root itself. -/
def trimSeparators (cs : List Char) : List Char := (dropFinalSeparators cs.reverse).reverse

/-- The path above, from a reversed path without final separators. -/
def parentOfReversed (rev : List Char) : Option (List Char) :=
  match rev.dropWhile (! isSeparator ·) with
  | [] => none
  | sep :: head =>
    match head with
    | [] => none
    | c :: _ =>
      if c != ':' then some head
      else if (rev.takeWhile (! isSeparator ·)).isEmpty then none
      else some (sep :: head)

/-- The path one level up: what stands before the last separator, with the separator if that makes
a volume root. There is none above a root or above a path of one segment. -/
def above? (path : String) : Option String :=
  (parentOfReversed (trimSeparators path.toList).reverse).map fun rev => String.ofList rev.reverse

/-- The last segment: what stands behind the last separator. -/
def lastSegment (path : String) : String :=
  String.ofList ((trimSeparators path.toList).reverse.takeWhile (! isSeparator ·)).reverse

/-- A path does not become longer when separators are dropped. -/
theorem length_dropFinalSeparators (cs : List Char) :
    (dropFinalSeparators cs).length ≤ cs.length := by
  fun_induction dropFinalSeparators cs with
  | case1 a b rest _ ih => exact Nat.le_succ_of_le ih
  | case2 a b rest _ => exact Nat.le_refl _
  | case3 cs _ => exact Nat.le_refl _

/-- The path above is shorter. -/
theorem length_parentOfReversed {rev parent : List Char} (h : parentOfReversed rev = some parent) :
    parent.length < rev.length := by
  have hlen := (List.takeWhile_append_dropWhile (p := (! isSeparator ·)) (l := rev))
  have hsum := congrArg List.length hlen
  unfold parentOfReversed at h
  split at h
  · simp at h
  · rename_i sep head hdrop
    rw [hdrop] at hsum
    simp only [List.length_append, List.length_cons] at hsum
    split at h
    · simp at h
    · rename_i c tail
      split at h
      · simp only [Option.some.injEq] at h
        subst h
        omega
      · split at h
        · simp at h
        · rename_i hne
          simp only [Option.some.injEq] at h
          subst h
          have : 0 < (rev.takeWhile (! isSeparator ·)).length := by
            cases hw : rev.takeWhile (! isSeparator ·) <;> simp_all
          simp only [List.length_cons] at hsum ⊢
          omega

/-- The path above is shorter, so that going up ends. -/
theorem length_lt_of_above? {path parent : String} (h : above? path = some parent) :
    parent.length < path.length := by
  obtain ⟨rev, hrev, rfl⟩ := Option.map_eq_some_iff.1 h
  have h1 := length_parentOfReversed hrev
  have h2 := length_dropFinalSeparators path.toList.reverse
  simp only [trimSeparators, List.reverse_reverse, List.length_reverse] at h1 h2
  simp only [String.length_ofList, List.length_reverse]
  exact Nat.lt_of_lt_of_le h1 (by simpa [String.length_toList] using h2)

/-- The paths above a path, the nearest first. -/
def ancestors (path : String) : List String :=
  match _h : above? path with
  | none => []
  | some parent => parent :: ancestors parent
termination_by path.length
decreasing_by exact length_lt_of_above? (by assumption)

end ServerSetup.Path
