/-!
# Decimal numbers

Unsigned decimal numbers as they stand in arguments, records and documents: digits only for the
strict form, an optional plus sign for the lenient one. Reading what `Nat.repr` writes gives the
number back.
-/

namespace ServerSetup.Text

/-- The number that a non-empty row of digits denotes. -/
def digits? (cs : List Char) : Option Nat :=
  if cs.isEmpty || !cs.all Char.isDigit then none else some (Nat.ofDigitChars 10 cs 0)

/-- A number written with digits, which may follow one plus sign. -/
def unsigned? : List Char → Option Nat
  | '+' :: rest => digits? rest
  | cs => digits? cs

/-- A number that may follow one plus sign, if it is at most `bound`. -/
def boundedUnsigned? (bound : Nat) (cs : List Char) : Option Nat :=
  (unsigned? cs).filter (· ≤ bound)

/-- A number is read back from its digits. -/
theorem digits?_repr (n : Nat) : digits? n.repr.toList = some n := by
  have hne : (Nat.toDigits 10 n).isEmpty = false := by
    have := @Nat.toDigits_ne_nil n 10
    cases h : Nat.toDigits 10 n <;> simp_all
  have hall : (Nat.toDigits 10 n).all Char.isDigit = true :=
    List.all_eq_true.2 fun c hc => Nat.isDigit_of_mem_toDigits (by decide) (by decide) hc
  simp [digits?, Nat.repr, hne, hall, Nat.ofDigitChars_toDigits]

/-- So it is by the lenient reader, within the bound. -/
theorem boundedUnsigned?_repr {n bound : Nat} (h : n ≤ bound) :
    boundedUnsigned? bound n.repr.toList = some n := by
  have hplus : unsigned? n.repr.toList = digits? n.repr.toList := by
    unfold unsigned?
    split
    · rename_i rest hrest
      have hmem : '+' ∈ Nat.toDigits 10 n := by
        rw [← Nat.toList_repr, hrest]
        exact List.mem_cons_self
      exact absurd (Nat.isDigit_of_mem_toDigits (by decide) (by decide) hmem) (by decide)
    · rfl
  rw [boundedUnsigned?, hplus, digits?_repr, Option.filter_some, if_pos (by simpa using h)]

end ServerSetup.Text
