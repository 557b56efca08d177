/-!
# Letter case of the 26 ASCII letters

Service records, filter names and flags of other tools are compared without regard to the case of
ASCII letters, and of no other letters: `K` and the Kelvin sign stay different.
-/

namespace ServerSetup.Text

/-- Equality of texts up to the case of ASCII letters. -/
def sameIgnoringCase (a b : List Char) : Bool :=
  a.map Char.toLower == b.map Char.toLower

/-- Equality of strings up to the case of ASCII letters. -/
def equalIgnoringCase (a b : String) : Bool := sameIgnoringCase a.toList b.toList

/-- Two texts are the same in this sense if their small letters are. -/
theorem sameIgnoringCase_iff {a b : List Char} :
    sameIgnoringCase a b = true ↔ a.map Char.toLower = b.map Char.toLower := by
  simp [sameIgnoringCase]

/-- Whether a text starts with `word`, up to the case of ASCII letters. -/
def startsIgnoringCase (word : List Char) (cs : List Char) : Bool :=
  sameIgnoringCase word (cs.take word.length)

end ServerSetup.Text
