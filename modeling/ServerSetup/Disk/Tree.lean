/-!
# File trees

A file tree gives for each location below the root what is there: a file, a directory or a symbolic
link. A location is the list of the names on the way from the root. The root is always a directory.
-/

namespace ServerSetup

/-- The names on the way from the root. -/
abbrev Location := List String

/-- What may be at a location. -/
inductive Entry
  | file (content : List UInt8)
  | directory
  | link (target : String)
deriving DecidableEq

/-- What is at each location, the root excepted. -/
structure FileTree where
  entries : List (Location × Entry)

namespace FileTree

/-- The tree with nothing but the root. -/
def empty : FileTree := ⟨[]⟩

/-- What is at a location. -/
def get? (t : FileTree) (l : Location) : Option Entry :=
  if l = [] then some .directory else t.entries.lookup l

/-- The entries at other locations. -/
def elsewhere (l : Location) (es : List (Location × Entry)) : List (Location × Entry) :=
  es.filter fun e => e.1 != l

/-- Puts an entry at a location, in place of what was there. -/
def put (t : FileTree) (l : Location) (e : Entry) : FileTree :=
  ⟨elsewhere l t.entries ++ [(l, e)]⟩

/-- Takes away what is at a location. -/
def erase (t : FileTree) (l : Location) : FileTree := ⟨elsewhere l t.entries⟩

/-- Takes away what is at a location and below it. -/
def eraseBelow (t : FileTree) (l : Location) : FileTree :=
  ⟨t.entries.filter fun e => ! l.isPrefixOf e.1⟩

/-- Whether there is a directory at a location. -/
def isDirectory (t : FileTree) (l : Location) : Bool := t.get? l == some .directory

/-- The names in a directory. -/
def children (t : FileTree) (l : Location) : List String :=
  t.entries.filterMap fun e =>
    match e.1.getLast? with
    | some name => if e.1.dropLast = l then some name else none
    | none => none

/-- Everything below a location, by the names on the way from there. -/
def below (t : FileTree) (l : Location) : List (Location × Entry) :=
  (t.entries.filter fun e => l.isPrefixOf e.1 && e.1 ≠ l).map fun e => (e.1.drop l.length, e.2)

/-- Leaving out a location makes no difference to another one. -/
theorem lookup_elsewhere_of_ne {l m : Location} (h : l ≠ m) (es : List (Location × Entry)) :
    (elsewhere m es).lookup l = es.lookup l := by
  unfold elsewhere
  induction es with
  | nil => rfl
  | cons e es ih =>
    obtain ⟨k, v⟩ := e
    by_cases hk : k = m
    · subst hk
      have hb : (l == k) = false := by simpa using h
      simpa [List.lookup_cons, hb] using ih
    · have hb : (k != m) = true := by simpa using hk
      simp only [hb, List.filter_cons_of_pos, List.lookup_cons, ih]

/-- Nothing is found at a location that was left out. -/
theorem lookup_elsewhere_self (l : Location) (es : List (Location × Entry)) :
    (elsewhere l es).lookup l = none := by
  unfold elsewhere
  induction es with
  | nil => rfl
  | cons e es ih =>
    obtain ⟨k, v⟩ := e
    by_cases hk : k = l
    · subst hk; simpa using ih
    · have hb : (k != l) = true := by simpa using hk
      have hl : (l == k) = false := by simpa using Ne.symm hk
      simp only [hb, List.filter_cons_of_pos, List.lookup_cons, hl, ih]

/-- An entry that was put into a tree is there. -/
theorem get?_put_self (t : FileTree) {l : Location} (h : l ≠ []) (e : Entry) :
    (t.put l e).get? l = some e := by
  simp [get?, put, h, List.lookup_append, lookup_elsewhere_self]

/-- The other entries are as before. -/
theorem get?_put_of_ne (t : FileTree) {l m : Location} (h : l ≠ m) (e : Entry) :
    (t.put m e).get? l = t.get? l := by
  have hb : (l == m) = false := by simpa using h
  simp [get?, put, List.lookup_append, lookup_elsewhere_of_ne h, List.lookup_cons, hb]

/-- An entry that was erased is not there. -/
theorem get?_erase_self (t : FileTree) {l : Location} (h : l ≠ []) :
    (t.erase l).get? l = none := by
  simp [get?, erase, h, lookup_elsewhere_self]

/-- The other entries are as before. -/
theorem get?_erase_of_ne (t : FileTree) {l m : Location} (h : l ≠ m) :
    (t.erase m).get? l = t.get? l := by
  simp [get?, erase, lookup_elsewhere_of_ne h]

end FileTree

end ServerSetup
