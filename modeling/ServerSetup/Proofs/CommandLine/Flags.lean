import ServerSetup.CommandLine.Flag
import ServerSetup.Proofs.CommandLine.Tokens

/-!
# Spellings of flags and values

A text is recognised exactly if it is the one-dash spelling of a flag or that spelling behind one
more dash (`ofChars?_eq_some_iff`). `IsValue` is what a text needs to be written behind a flag and
to be taken as its value again: it has no quotes of its own, it is no flag, and it is not empty. An
empty text is written as nothing at all, which is why the first two conditions are kept apart as
`IsQuotable`.

Facts about all flags are checked over the list of all flags, which is short, and then hold of each
one: the spellings are different, start with a dash, and contain neither blank characters nor
quotes. So the spelling of a flag is a token by itself (`wellFormed_token`) and is recognised again
(`flag?_token`).

For a value the written form is its token (`valueToken`). Quotes are put around it if it has a blank
character, and since it has none of its own they are the only ones, so that the value of the token
is the text again (`text_valueToken`). That the tool puts no quotes around a text that already
starts with one plays no part here.
-/

namespace ServerSetup.CommandLine

open ServerSetup.Text

/-! ### Flags -/

namespace Flag

/-- A flag as a token in its one-dash spelling. -/
def token (f : Flag) : Token := .ofRaw f.text.toList

/-- No two flags are spelled alike. -/
theorem text_injective : Function.Injective text := by
  have h : ∀ f ∈ all, ∀ g ∈ all, f.text = g.text → f = g := by decide
  exact fun f g ↦ h f f.mem_all g g.mem_all

theorem normalized_text (f : Flag) :
    normalized f.text.toList = f.text.toList ∧
      normalized ('-' :: f.text.toList) = f.text.toList := by
  have h : ∀ f ∈ all, normalized f.text.toList = f.text.toList ∧
      normalized ('-' :: f.text.toList) = f.text.toList := by decide
  exact h f f.mem_all

/-- A text is reduced by at most its first character, which is a dash then. -/
theorem normalized_eq_or (cs : List Char) : normalized cs = cs ∨ cs = '-' :: normalized cs := by
  unfold normalized
  split
  · exact Or.inr rfl
  · exact Or.inl rfl

/-- **A text is recognised exactly if it spells a flag with one dash or with two.** -/
theorem ofChars?_eq_some_iff {cs : List Char} {f : Flag} :
    ofChars? cs = some f ↔ cs = f.text.toList ∨ cs = '-' :: f.text.toList := by
  have hfind : ofChars? cs = some f ↔ normalized cs = f.text.toList := by
    rw [ofChars?]
    constructor
    · intro h
      have hf := List.find?_some h
      exact (beq_iff_eq.1 hf).symm
    · intro h
      rcases hfind : all.find? fun g ↦ g.text.toList == normalized cs with - | g
      · have hf := List.find?_eq_none.1 hfind f f.mem_all
        simp [h] at hf
      · have hg := List.find?_some hfind
        rw [hfind, text_injective (String.toList_inj.1 ((beq_iff_eq.1 hg).trans h))]
  rw [hfind]
  constructor
  · intro h
    rcases normalized_eq_or cs with hcs | hcs
    · exact Or.inl (hcs.symm.trans h)
    · exact Or.inr (hcs.trans (by rw [h]))
  · rintro (rfl | rfl)
    · exact f.normalized_text.1
    · exact f.normalized_text.2

/-- The spelling of a flag has no blank characters and no quotes. -/
theorem isBlank_of_mem_text {f : Flag} : ∀ c ∈ f.text.toList, isBlank c = false ∧ c ≠ '"' := by
  have h : ∀ f ∈ all, f.text.toList.all (fun c ↦ !isBlank c && c != '"') = true := by decide
  intro c hc
  have hc := List.all_eq_true.1 (h f f.mem_all) c hc
  simpa using hc

theorem quote_not_mem_text (f : Flag) : '"' ∉ f.text.toList :=
  fun h ↦ (isBlank_of_mem_text _ h).2 rfl

@[simp] theorem chars_token (f : Flag) : f.token.chars = f.text.toList :=
  Token.chars_of_not_mem f.quote_not_mem_text

/-- A flag is recognised in its own token. -/
@[simp] theorem flag?_token (f : Flag) : f.token.flag? = some f := by
  rw [Token.flag?, chars_token]
  exact ofChars?_eq_some_iff.2 (Or.inl rfl)

theorem head?_text (f : Flag) : f.text.toList.head? = some '-' := by
  have h : ∀ f ∈ all, f.text.toList.head? = some '-' := by decide
  exact h f f.mem_all

/-- The spelling of a flag is one token. -/
theorem wellFormed_token (f : Flag) : f.token.WellFormed where
  ne_nil h := by
    have := f.head?_text
    rw [show f.text.toList = [] from h] at this
    cases this
  solid := solid_of_forall_not_blank fun c hc ↦ (isBlank_of_mem_text c hc).1
  chars_eq := rfl

end Flag

/-! ### Values -/

/-- A flag in one of its two spellings. -/
def SpellsFlag (s : String) : Prop := ∃ f : Flag, s = f.text ∨ s = "-" ++ f.text

/-- What is not recognised is no spelling of a flag. -/
theorem Flag.ofChars?_eq_none_iff {cs : List Char} :
    ofChars? cs = none ↔ ¬ SpellsFlag (String.ofList cs) := by
  have hspell (f : Flag) : ofChars? cs = some f ↔
      String.ofList cs = f.text ∨ String.ofList cs = "-" ++ f.text := by
    rw [ofChars?_eq_some_iff, ← String.toList_inj, ← String.toList_inj, String.toList_ofList,
      String.toList_append]
    rfl
  simp only [Option.eq_none_iff_forall_ne_some, ne_eq, hspell, SpellsFlag, not_exists]

instance (s : String) : Decidable (SpellsFlag s) :=
  decidable_of_iff (Flag.ofChars? s.toList ≠ none) <| by
    rw [Ne, Flag.ofChars?_eq_none_iff, not_not, String.ofList_toList]

/-- A token is no flag exactly if its value spells none. Quotes do not hide a flag. -/
theorem Token.flag?_eq_none_iff {t : Token} : t.flag? = none ↔ ¬ SpellsFlag t.text :=
  Flag.ofChars?_eq_none_iff

/-- A text that can stand in quotes and is no flag. -/
structure IsQuotable (v : String) : Prop where
  no_quote : '"' ∉ v.toList
  not_flag : ¬ SpellsFlag v

/-- A text that can be written as the value of a flag. -/
structure IsValue (v : String) : Prop extends IsQuotable v where
  ne_empty : v ≠ ""

instance (v : String) : Decidable (IsValue v) :=
  decidable_of_iff (('"' ∉ v.toList ∧ ¬ SpellsFlag v) ∧ v ≠ "")
    ⟨fun h ↦ ⟨⟨h.1.1, h.1.2⟩, h.2⟩, fun h ↦ ⟨⟨h.no_quote, h.not_flag⟩, h.ne_empty⟩⟩

/-- A value as a token, in quotes if it contains a blank character. -/
def valueToken (v : String) : Token := .ofRaw (asOneToken v).toList

namespace IsQuotable

variable {v : String}

/-- A value is written with quotes around it or without, as it contains a blank character or not. -/
theorem toList_asOneToken (h : IsQuotable v) :
    ((∀ c ∈ v.toList, isBlank c = false) ∧ (asOneToken v).toList = v.toList) ∨
      (asOneToken v).toList = '"' :: (v.toList ++ ['"']) := by
  by_cases hblank : v.toList.any isBlank = true
  · right
    have hhead : v.toList.head? ≠ some '"' := fun hq ↦ h.no_quote (List.mem_of_head? hq)
    rw [asOneToken, if_pos (by simp [hblank, hhead])]
    simp
  · left
    refine ⟨by simpa using hblank, ?_⟩
    rw [asOneToken, if_neg (by simp [hblank])]

/-- A value leaves no quote open in its written form. -/
theorem closesQuotes_asOneToken (h : IsQuotable v) : ClosesQuotes (asOneToken v).toList := by
  rcases h.toList_asOneToken with ⟨-, he⟩ | he
  · rw [he]
    exact closesQuotes_of_not_mem h.no_quote
  · rw [he]
    exact closesQuotes_quoted h.no_quote

/-- The token of a value has the value that was written. -/
theorem chars_valueToken (h : IsQuotable v) : (valueToken v).chars = v.toList := by
  rw [valueToken]
  rcases h.toList_asOneToken with ⟨-, he⟩ | he
  · rw [he, Token.chars_of_not_mem h.no_quote]
  · rw [he, Token.chars_quoted h.no_quote]

theorem text_valueToken (h : IsQuotable v) : (valueToken v).text = v := by
  rw [Token.text, h.chars_valueToken, String.ofList_toList]

theorem flag?_valueToken (h : IsQuotable v) : (valueToken v).flag? = none := by
  rw [Token.flag?_eq_none_iff, h.text_valueToken]
  exact h.not_flag

/-- A value that is not empty is written as one token. -/
theorem wellFormed_valueToken (h : IsQuotable v) (hv : v ≠ "") : (valueToken v).WellFormed := by
  rcases h.toList_asOneToken with ⟨hblank, he⟩ | he
  · rw [valueToken, he]
    exact ⟨by simpa [Token.ofRaw] using hv, solid_of_forall_not_blank hblank, rfl⟩
  · rw [valueToken, he]
    exact wellFormed_quoted h.no_quote

/-- A value is written as one token, and an empty one as none. -/
theorem tokens_asOneToken (h : IsQuotable v) :
    tokens (asOneToken v).toList = if v = "" then [] else [valueToken v] := by
  by_cases hv : v = ""
  · subst hv
    rfl
  · rw [if_neg hv]
    exact (h.wellFormed_valueToken hv).tokens_raw

end IsQuotable

end ServerSetup.CommandLine
