/-!
# Blank characters

The characters with the Unicode property White_Space, and the cutting of a text at them: trimming
and splitting into words. Both work on lists of characters, so that their laws are laws of lists.
-/

namespace ServerSetup.Text

/-- The 25 characters with the property White_Space. -/
def isBlank (c : Char) : Bool :=
  let n := c.toNat
  (9 ≤ n && n ≤ 13) || n == 0x20 || n == 0x85 || n == 0xA0 || n == 0x1680 ||
    (0x2000 ≤ n && n ≤ 0x200A) || n == 0x2028 || n == 0x2029 || n == 0x202F || n == 0x205F ||
    n == 0x3000

/-- Every character that core calls white space is blank. -/
theorem isBlank_of_isWhitespace {c : Char} (h : c.isWhitespace = true) : isBlank c = true := by
  simp only [Char.isWhitespace, Bool.or_eq_true, decide_eq_true_eq] at h
  rcases h with ((h | h) | h) | h <;> subst h <;> decide

/-- Drops the elements with property `p` at the end of a list. -/
def dropEndWhile {α : Type} (p : α → Bool) (l : List α) : List α :=
  (l.reverse.dropWhile p).reverse

/-- Drops the blank characters at the start. -/
def trimStart (cs : List Char) : List Char := cs.dropWhile isBlank

/-- Drops the blank characters at the end. -/
def trimEnd (cs : List Char) : List Char := dropEndWhile isBlank cs

/-- Drops the blank characters at both ends. -/
def trim (cs : List Char) : List Char := trimEnd (trimStart cs)

/-- Trims a string. -/
def trimmed (s : String) : String := String.ofList (trim s.toList)

/-- A text is blank if trimming leaves nothing of it. -/
def isBlankText (s : String) : Bool := s.toList.all isBlank

/-- Splits at the elements with property `p`: one piece more than there are such elements. -/
def splitWhere {α : Type} (p : α → Bool) : List α → List (List α)
  | [] => [[]]
  | c :: rest =>
    if p c then [] :: splitWhere p rest
    else
      match splitWhere p rest with
      | [] => [[c]]
      | piece :: pieces => (c :: piece) :: pieces

/-- The maximal pieces without a blank character. -/
def words (cs : List Char) : List (List Char) :=
  (splitWhere isBlank cs).filter (! ·.isEmpty)

end ServerSetup.Text
