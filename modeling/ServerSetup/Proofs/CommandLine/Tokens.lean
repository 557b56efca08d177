import Mathlib.Algebra.Group.Nat.Even
import Mathlib.Algebra.Ring.Parity
import ServerSetup.CommandLine.Token
import ServerSetup.Proofs.Text.Trim

/-!
# Reading tokens back

How the tokens of a line follow from those of its parts. Everything rests on one equation,
`tokens_append_blank`: where no quote is open, a blank character cuts the line, and the tokens of
both sides stand one behind the other. From it come the tokens of parts that were joined by spaces
(`tokens_intercalate`) and the return of every token that was written down (`tokens_joined`).

The loop collects two things for a token, what is written and the value without its quotes.
`Token.ofRaw` is the token that is given by what is written alone, and `extend_ofRaw?` is the one
place where the two are compared: reading a character keeps them in step. All that follows is said
in terms of what is written, and the values come back at the end, as a part of what makes a token of
a line whole (`Token.WellFormed`).

The tokens of any line are *whole*, and all but the last close their quotes (`isLine_tokens`). Only
the last may leave a quote open, which is why order matters in what follows and why the second fact
is stated as a relation between a token and those behind it. Together with the blank characters
between them they make up the line (`tiles_tokensFrom`).
-/

namespace ServerSetup.CommandLine

open ServerSetup.Text

/-! ### Open and closed quotes -/

theorem ne_quote_of_isBlank {c : Char} (h : isBlank c = true) : c ≠ '"' := by
  rintro rfl
  exact absurd h (by decide)

/-- Whether a quote is open after some characters, if one was open before them as `q` says. -/
def quotedAfter : Bool → List Char → Bool
  | q, [] => q
  | q, c :: cs => quotedAfter (if c = '"' then !q else q) cs

/-- Every quote is closed. -/
def ClosesQuotes (cs : List Char) : Prop := Even (cs.count '"')

instance : DecidablePred ClosesQuotes := fun cs ↦ inferInstanceAs (Decidable (Even (cs.count '"')))

/-- Whether a quote is open can be followed through two texts one after the other. -/
theorem quotedAfter_append (q : Bool) (as bs : List Char) :
    quotedAfter q (as ++ bs) = quotedAfter (quotedAfter q as) bs := by
  induction as generalizing q with
  | nil => rfl
  | cons c as ih => exact ih _

/-- A quote is open exactly after an odd number of quotes, counting one that was open before. -/
theorem quotedAfter_eq_decide (q : Bool) (cs : List Char) :
    quotedAfter q cs = decide (¬ Even (cs.count '"' + q.toNat)) := by
  induction cs generalizing q with
  | nil => cases q <;> decide
  | cons c cs ih =>
    rw [quotedAfter, ih]
    by_cases hc : c = '"'
    · subst hc
      cases q <;> simp [parity_simps]
    · simp [hc]

/-- A text closes its quotes exactly if none is open behind it when none was before it. -/
theorem closesQuotes_iff {cs : List Char} : ClosesQuotes cs ↔ quotedAfter false cs = false := by
  simp [ClosesQuotes, quotedAfter_eq_decide]

theorem not_closesQuotes_iff {cs : List Char} :
    ¬ ClosesQuotes cs ↔ quotedAfter false cs = true := by
  simp [closesQuotes_iff]

@[simp] theorem closesQuotes_nil : ClosesQuotes [] := closesQuotes_iff.2 rfl

theorem ClosesQuotes.append {as bs : List Char} (ha : ClosesQuotes as) (hb : ClosesQuotes bs) :
    ClosesQuotes (as ++ bs) := by
  rw [closesQuotes_iff] at *
  rw [quotedAfter_append, ha, hb]

/-- Texts that close their quotes do so when they are joined by spaces. -/
theorem closesQuotes_intercalate {parts : List (List Char)} (h : ∀ p ∈ parts, ClosesQuotes p) :
    ClosesQuotes ([' '].intercalate parts) := by
  induction parts with
  | nil => exact closesQuotes_nil
  | cons p parts ih =>
    obtain ⟨hp, hparts⟩ := List.forall_mem_cons.1 h
    rcases parts with - | ⟨p', parts⟩
    · simpa using hp
    · rw [List.intercalate_cons_cons]
      exact (hp.append (closesQuotes_iff.2 rfl)).append (ih hparts)

theorem closesQuotes_of_not_mem {cs : List Char} (h : '"' ∉ cs) : ClosesQuotes cs := by
  rw [ClosesQuotes, List.count_eq_zero.2 h]
  exact Even.zero

/-- Putting quotes around a text that has none leaves none open. -/
theorem closesQuotes_quoted {cs : List Char} (h : '"' ∉ cs) :
    ClosesQuotes ('"' :: (cs ++ ['"'])) := by
  rw [ClosesQuotes, List.count_cons_self, List.count_append, List.count_eq_zero.2 h]
  decide

/-! ### Texts without a cut -/

/-- No blank character stands outside quotes, if a quote was open before the text as `q` says. -/
def Solid : Bool → List Char → Prop
  | _, [] => True
  | q, c :: cs => (isBlank c = true → q = true) ∧ Solid (if c = '"' then !q else q) cs

/-- Two texts are solid one behind the other if the second is, given what the first leaves open. -/
theorem solid_append {q : Bool} {as bs : List Char} :
    Solid q (as ++ bs) ↔ Solid q as ∧ Solid (quotedAfter q as) bs := by
  induction as generalizing q with
  | nil => simp [Solid, quotedAfter]
  | cons c as ih => simp [Solid, quotedAfter, ih, and_assoc]

/-- A text without blank characters is solid. -/
theorem solid_of_forall_not_blank {q : Bool} {cs : List Char}
    (h : ∀ c ∈ cs, isBlank c = false) : Solid q cs := by
  induction cs generalizing q with
  | nil => trivial
  | cons c cs ih =>
    refine ⟨fun hc ↦ ?_, ih fun d hd ↦ h d (List.mem_cons_of_mem _ hd)⟩
    rw [h c List.mem_cons_self] at hc
    cases hc

/-- Within quotes every text without quotes is solid. -/
theorem solid_true_of_not_mem {cs : List Char} (h : '"' ∉ cs) : Solid true cs := by
  induction cs with
  | nil => trivial
  | cons c cs ih =>
    rw [List.mem_cons, not_or] at h
    refine ⟨fun _ ↦ rfl, ?_⟩
    rw [if_neg (Ne.symm h.1)]
    exact ih h.2

/-- A solid text that closes its quotes does not end in a blank character. -/
theorem isBlank_getLast?_of_solid {cs : List Char} (hs : Solid false cs) (hb : ClosesQuotes cs) :
    ∀ c ∈ cs.getLast?, isBlank c = false := by
  intro c hc
  obtain ⟨init, rfl⟩ := List.getLast?_eq_some_iff.1 hc
  by_contra hblank
  rw [Bool.not_eq_false] at hblank
  have hopen : quotedAfter false init = true := (solid_append.1 hs).2.1 hblank
  rw [closesQuotes_iff, quotedAfter_append, hopen] at hb
  simp [quotedAfter, ne_quote_of_isBlank hblank] at hb

/-! ### One token -/

namespace Token

/-- The token that is written as some characters. -/
def ofRaw (raw : List Char) : Token := ⟨raw, raw.filter (· != '"')⟩

/-- The token that is being read after some characters without a cut. Before the first of them there
is none. -/
def ofRaw? (raw : List Char) : Option Token := if raw.isEmpty then none else some (ofRaw raw)

theorem ofRaw?_of_ne_nil {raw : List Char} (h : raw ≠ []) : ofRaw? raw = some (ofRaw raw) :=
  if_neg (by simpa using h)

/-- The token that is being read is written as what was read of it. -/
theorem raw_of_mem_ofRaw? {raw : List Char} {t : Token} (h : t ∈ (ofRaw? raw).toList) :
    t.raw = raw := by
  by_cases hraw : raw = []
  · rw [hraw] at h
    cases h
  · rw [ofRaw?_of_ne_nil hraw, Option.toList_some, List.mem_singleton] at h
    rw [h]
    rfl

/-- Reading on keeps what is collected in step with what is written. -/
theorem extend_ofRaw? (raw : List Char) (c : Char) :
    extend (ofRaw? raw) c = ofRaw (raw ++ [c]) := by
  have hread : (ofRaw? raw).getD ⟨[], []⟩ = ofRaw raw := by
    cases raw with
    | nil => rfl
    | cons => rfl
  rw [extend, hread]
  by_cases hc : c = '"' <;> simp [ofRaw, hc]

/-- A token as a line can contain it: not empty, without a blank character outside quotes, and with
exactly its quotes left out of its value. -/
structure WellFormed (t : Token) : Prop where
  ne_nil : t.raw ≠ []
  solid : Solid false t.raw
  chars_eq : t.chars = t.raw.filter (· != '"')

theorem WellFormed.ofRaw_raw {t : Token} (h : t.WellFormed) : ofRaw t.raw = t := by
  rw [ofRaw, ← h.chars_eq]

end Token

/-- A text in quotes is one token. -/
theorem wellFormed_quoted {cs : List Char} (h : '"' ∉ cs) :
    (Token.ofRaw ('"' :: (cs ++ ['"']))).WellFormed where
  ne_nil := List.cons_ne_nil _ _
  solid :=
    ⟨fun hb ↦ absurd rfl (ne_quote_of_isBlank hb), solid_append.2 ⟨solid_true_of_not_mem h,
      fun hb ↦ absurd rfl (ne_quote_of_isBlank hb), trivial⟩⟩
  chars_eq := rfl

/-- A token without quotes has what is written as its value. -/
theorem Token.chars_of_not_mem {cs : List Char} (h : '"' ∉ cs) : (Token.ofRaw cs).chars = cs := by
  refine List.filter_eq_self.2 fun c hc ↦ ?_
  have hne : c ≠ '"' := by
    rintro rfl
    exact h hc
  simpa using hne

/-- The value of a text in quotes is the text. -/
theorem Token.chars_quoted {cs : List Char} (h : '"' ∉ cs) :
    (Token.ofRaw ('"' :: (cs ++ ['"']))).chars = cs := by
  have hcs : cs.filter (· != '"') = cs := Token.chars_of_not_mem h
  rw [Token.ofRaw, List.filter_cons_of_neg (by decide), List.filter_append, hcs]
  simp

/-! ### The tokens of a line -/

/-- The step of the loop at a cut: the token that was being read is complete. -/
theorem tokensFrom_cons_of_cut {q : Bool} {reading : Option Token} {c : Char} {rest : List Char}
    (h : (isBlank c && !q) = true) :
    tokensFrom q reading (c :: rest) = reading.toList ++ tokens rest := by
  rw [tokensFrom, if_pos h]
  rfl

theorem tokensFrom_cons_of_not_cut {q : Bool} {reading : Option Token} {c : Char}
    {rest : List Char} (h : ¬ (isBlank c && !q) = true) :
    tokensFrom q reading (c :: rest) =
      tokensFrom (if c = '"' then !q else q) (some (.extend reading c)) rest := by
  rw [tokensFrom, if_neg h]

/-- The step of the loop within a token, in terms of what is written of it so far. -/
theorem tokensFrom_ofRaw?_cons {q : Bool} {raw : List Char} {c : Char} {rest : List Char}
    (h : ¬ (isBlank c && !q) = true) :
    tokensFrom q (Token.ofRaw? raw) (c :: rest) =
      tokensFrom (if c = '"' then !q else q) (Token.ofRaw? (raw ++ [c])) rest := by
  rw [tokensFrom_cons_of_not_cut h, Token.extend_ofRaw?, Token.ofRaw?_of_ne_nil (by simp)]

/-- A blank character cuts what is read, if no quote is open before it. -/
theorem tokensFrom_append {q : Bool} {reading : Option Token} {cs rest : List Char} {c : Char}
    (hq : quotedAfter q cs = false) (hc : isBlank c = true) :
    tokensFrom q reading (cs ++ c :: rest) = tokensFrom q reading cs ++ tokens rest := by
  induction cs generalizing q reading with
  | nil =>
    have hq' : q = false := hq
    rw [List.nil_append, tokensFrom_cons_of_cut (by simp [hc, hq']), tokensFrom]
  | cons d cs ih =>
    rw [List.cons_append]
    by_cases hd : (isBlank d && !q) = true
    · obtain ⟨hblank, hq'⟩ : isBlank d = true ∧ q = false := by simpa using hd
      rw [quotedAfter, if_neg (ne_quote_of_isBlank hblank), hq'] at hq
      rw [tokensFrom_cons_of_cut hd, tokensFrom_cons_of_cut hd, List.append_assoc]
      exact congrArg (reading.toList ++ ·) (ih hq)
    · rw [tokensFrom_cons_of_not_cut hd, tokensFrom_cons_of_not_cut hd, ih hq]

/-- **A blank character outside quotes cuts a line.** -/
theorem tokens_append_blank {cs rest : List Char} {c : Char} (hcs : ClosesQuotes cs)
    (hc : isBlank c = true) : tokens (cs ++ c :: rest) = tokens cs ++ tokens rest :=
  tokensFrom_append (closesQuotes_iff.1 hcs) hc

@[simp] theorem tokens_nil : tokens [] = [] := rfl

theorem tokens_cons_blank {c : Char} {rest : List Char} (hc : isBlank c = true) :
    tokens (c :: rest) = tokens rest :=
  tokens_append_blank closesQuotes_nil hc

/-- All blank characters at the front are skipped. -/
theorem tokens_append_of_forall_blank {blanks rest : List Char}
    (h : ∀ c ∈ blanks, isBlank c = true) : tokens (blanks ++ rest) = tokens rest := by
  induction blanks with
  | nil => rfl
  | cons c blanks ih =>
    rw [List.cons_append, tokens_cons_blank (h c List.mem_cons_self)]
    exact ih fun d hd ↦ h d (List.mem_cons_of_mem _ hd)

/-- A text without a cut goes on the token that is being read. -/
theorem tokensFrom_of_solid {q : Bool} {raw cs : List Char} (h : Solid q cs) :
    tokensFrom q (Token.ofRaw? raw) cs = (Token.ofRaw? (raw ++ cs)).toList := by
  induction cs generalizing q raw with
  | nil => rw [tokensFrom, List.append_nil]
  | cons c cs ih =>
    have hc : ¬ (isBlank c && !q) = true := by simpa using h.1
    rw [tokensFrom_ofRaw?_cons hc, ih h.2, List.append_assoc, List.singleton_append]

/-- A text without a cut is one token. -/
theorem Token.WellFormed.tokens_raw {t : Token} (h : t.WellFormed) : tokens t.raw = [t] := by
  have hread : tokens t.raw = (Token.ofRaw? t.raw).toList :=
    @tokensFrom_of_solid false [] t.raw h.solid
  rw [hread, Token.ofRaw?_of_ne_nil h.ne_nil, Option.toList_some, h.ofRaw_raw]

/-! ### Tokens that make up a line -/

/-- The tokens of some line: each is whole, and all but the last close their quotes. -/
structure IsLine (ts : List Token) : Prop where
  wellFormed : ∀ t ∈ ts, t.WellFormed
  /-- A token that another one follows closes its quotes. -/
  closesQuotes : ts.Pairwise fun t _ ↦ ClosesQuotes t.raw

theorem IsLine.nil : IsLine [] := ⟨by simp, List.Pairwise.nil⟩

/-- Some of the tokens of a line, in their order, are the tokens of a line. -/
theorem IsLine.sublist {ts us : List Token} (h : IsLine us) (hsub : ts.Sublist us) : IsLine ts :=
  ⟨fun t ht ↦ h.wellFormed t (hsub.subset ht), h.closesQuotes.sublist hsub⟩

/-- A token that was read to its end comes before those of the rest of the line. -/
theorem IsLine.ofRaw?_append {raw : List Char} {ts : List Token} (h : IsLine ts)
    (hs : Solid false raw) (hb : ts ≠ [] → ClosesQuotes raw) :
    IsLine ((Token.ofRaw? raw).toList ++ ts) := by
  by_cases hraw : raw = []
  · rw [hraw]
    exact h
  · rw [Token.ofRaw?_of_ne_nil hraw, Option.toList_some, List.singleton_append]
    refine ⟨?_, List.pairwise_cons.2 ⟨fun u hu ↦ hb (List.ne_nil_of_mem hu), h.closesQuotes⟩⟩
    intro t ht
    rcases List.mem_cons.1 ht with rfl | ht
    · exact ⟨hraw, hs, rfl⟩
    · exact h.wellFormed t ht

/-- What the loop yields are the tokens of a line, if what was read of the first one has no cut and
leaves a quote open as `q` says. -/
theorem isLine_tokensFrom {q : Bool} {raw cs : List Char} (hs : Solid false raw)
    (hq : quotedAfter false raw = q) : IsLine (tokensFrom q (Token.ofRaw? raw) cs) := by
  -- what is written so far is solid, and `q` says whether it leaves a quote open
  induction cs generalizing q raw with
  | nil =>
    rw [tokensFrom, ← List.append_nil (Option.toList _)]
    exact IsLine.nil.ofRaw?_append hs (by simp)
  | cons c cs ih =>
    by_cases hc : (isBlank c && !q) = true
    · obtain ⟨-, hq'⟩ : isBlank c = true ∧ q = false := by simpa using hc
      rw [tokensFrom_cons_of_cut hc]
      exact (@ih false [] trivial rfl).ofRaw?_append hs fun _ ↦ closesQuotes_iff.2 (hq.trans hq')
    · rw [tokensFrom_ofRaw?_cons hc]
      refine ih ?_ ?_
      · rw [solid_append, hq]
        exact ⟨hs, by simpa using hc, trivial⟩
      · rw [quotedAfter_append, hq]
        rfl

/-- The tokens of any line are whole, and all but the last close their quotes. -/
theorem isLine_tokens (cs : List Char) : IsLine (tokens cs) :=
  @isLine_tokensFrom false [] cs trivial rfl

/-- The tokens of parts that are joined by spaces, if every part but the last closes its quotes. -/
theorem tokens_intercalate {parts : List (List Char)}
    (h : parts.Pairwise fun p _ ↦ ClosesQuotes p) :
    tokens ([' '].intercalate parts) = parts.flatMap tokens := by
  induction parts with
  | nil => rfl
  | cons p parts ih =>
    obtain ⟨hp, hparts⟩ := List.pairwise_cons.1 h
    rcases parts with - | ⟨p', parts⟩
    · simp
    · rw [List.intercalate_cons_cons, List.append_assoc, List.singleton_append,
        tokens_append_blank (hp p' List.mem_cons_self) (by decide), ih hparts,
        ← List.flatMap_cons]

theorem toList_joined (ts : List Token) :
    (joined ts).toList = [' '].intercalate (ts.map Token.raw) := by
  simp [joined, Function.comp_def]

/-- **The tokens of a line are read back from what joining them writes.** -/
theorem tokens_joined {ts : List Token} (h : IsLine ts) : tokens (joined ts).toList = ts := by
  rw [toList_joined, tokens_intercalate (List.pairwise_map.2 h.closesQuotes)]
  induction ts with
  | nil => rfl
  | cons t ts ih =>
    rw [List.map_cons, List.flatMap_cons, (h.wellFormed t List.mem_cons_self).tokens_raw,
      ih (h.sublist (List.sublist_cons_self t ts)), List.singleton_append]

/-! ### The end of a line -/

/-- In a line that does not end in a blank character, no token does. -/
theorem isBlank_getLast?_of_mem_tokens {cs : List Char}
    (hcs : ∀ c ∈ cs.getLast?, isBlank c = false) :
    ∀ t ∈ tokens cs, ∀ c ∈ t.raw.getLast?, isBlank c = false := by
  -- a token that a blank character ends closes its quotes; the last token ends as the line does
  suffices h : ∀ {q raw}, Solid false raw → quotedAfter false raw = q →
      (∀ c ∈ (raw ++ cs).getLast?, isBlank c = false) →
      ∀ t ∈ tokensFrom q (Token.ofRaw? raw) cs, ∀ c ∈ t.raw.getLast?, isBlank c = false from
    @h false [] trivial rfl hcs
  clear hcs
  induction cs with
  | nil =>
    intro q raw _ _ hlast t ht
    rw [Token.raw_of_mem_ofRaw? ht]
    simpa using hlast
  | cons d cs ih =>
    intro q raw hs hq hlast t ht
    by_cases hd : (isBlank d && !q) = true
    · obtain ⟨hblank, hq'⟩ : isBlank d = true ∧ q = false := by simpa using hd
      rw [tokensFrom_cons_of_cut hd, List.mem_append] at ht
      rcases ht with ht | ht
      · rw [Token.raw_of_mem_ofRaw? ht]
        exact isBlank_getLast?_of_solid hs (closesQuotes_iff.2 (hq.trans hq'))
      · refine @ih false [] trivial rfl ?_ t ht
        intro c hc
        rcases cs with - | ⟨e, cs⟩
        · cases hc
        · exact hlast c (by simpa using hc)
    · rw [tokensFrom_ofRaw?_cons hd] at ht
      refine ih ?_ ?_ (by simpa using hlast) t ht
      · rw [solid_append, hq]
        exact ⟨hs, by simpa using hd, trivial⟩
      · rw [quotedAfter_append, hq]
        rfl

/-- A character that is not blank is part of a token. -/
theorem tokens_ne_nil {cs : List Char} (h : ∃ c ∈ cs, isBlank c = false) : tokens cs ≠ [] := by
  suffices hfrom : ∀ {q} {reading : Option Token},
      reading.isSome ∨ (∃ c ∈ cs, isBlank c = false) → tokensFrom q reading cs ≠ [] from
    hfrom (Or.inr h)
  clear h
  induction cs with
  | nil =>
    rintro q (- | t) (hread | ⟨c, hc, -⟩)
    · cases hread
    · cases hc
    · exact List.cons_ne_nil _ _
    · cases hc
  | cons d cs ih =>
    intro q reading h
    by_cases hd : (isBlank d && !q) = true
    · rw [tokensFrom_cons_of_cut hd]
      rcases h with hread | ⟨c, hc, hblank⟩
      · obtain ⟨t, rfl⟩ := Option.isSome_iff_exists.1 hread
        exact List.cons_ne_nil _ _
      · obtain ⟨hd, -⟩ : isBlank d = true ∧ q = false := by simpa using hd
        rcases List.mem_cons.1 hc with rfl | hc
        · rw [hd] at hblank
          cases hblank
        · exact List.append_ne_nil_of_right_ne_nil _ (ih (Or.inr ⟨c, hc, hblank⟩))
    · rw [tokensFrom_cons_of_not_cut hd]
      exact ih (Or.inl rfl)

/-- Where a quote is open, a text without a cut goes on the last token. -/
theorem tokensFrom_append_open {q : Bool} {raw cs rest : List Char}
    (hraw : q = true → raw ≠ []) (hq : quotedAfter q cs = true) (hrest : Solid true rest) :
    ∃ init last, tokensFrom q (Token.ofRaw? raw) cs = init ++ [last] ∧
      tokensFrom q (Token.ofRaw? raw) (cs ++ rest) = init ++ [.ofRaw (last.raw ++ rest)] := by
  induction cs generalizing q raw with
  | nil =>
    have hq' : q = true := hq
    subst hq'
    have hne : raw ≠ [] := hraw rfl
    refine ⟨[], .ofRaw raw, ?_, ?_⟩
    · rw [tokensFrom, Token.ofRaw?_of_ne_nil hne, Option.toList_some, List.nil_append]
    · rw [List.nil_append, tokensFrom_of_solid hrest, Token.ofRaw?_of_ne_nil (by simp [hne])]
      rfl
  | cons d cs ih =>
    rw [List.cons_append]
    by_cases hd : (isBlank d && !q) = true
    · obtain ⟨hblank, hq'⟩ : isBlank d = true ∧ q = false := by simpa using hd
      rw [quotedAfter, if_neg (ne_quote_of_isBlank hblank), hq'] at hq
      obtain ⟨init, last, h₁, h₂⟩ := @ih false [] (by simp) hq
      refine ⟨(Token.ofRaw? raw).toList ++ init, last, ?_, ?_⟩
      · rw [tokensFrom_cons_of_cut hd, List.append_assoc, ← h₁]
        rfl
      · rw [tokensFrom_cons_of_cut hd, List.append_assoc, ← h₂]
        rfl
    · rw [tokensFrom_ofRaw?_cons hd, tokensFrom_ofRaw?_cons hd]
      exact ih (by simp) hq

/-- The same for a whole line: behind an open quote, a text without a cut goes on the last token. -/
theorem tokens_append_open {cs rest : List Char} (hcs : ¬ ClosesQuotes cs)
    (hrest : Solid true rest) :
    ∃ init last, tokens cs = init ++ [last] ∧
      tokens (cs ++ rest) = init ++ [.ofRaw (last.raw ++ rest)] :=
  @tokensFrom_append_open false [] cs rest (by simp) (not_closesQuotes_iff.1 hcs) hrest

/-- Behind closed quotes blank characters add nothing. -/
theorem tokens_append_blanks {cs blanks : List Char} (hcs : ClosesQuotes cs)
    (hb : ∀ c ∈ blanks, isBlank c = true) : tokens (cs ++ blanks) = tokens cs := by
  rcases blanks with - | ⟨c, blanks⟩
  · rw [List.append_nil]
  · have hnil : tokens blanks = [] := by
      rw [← List.append_nil blanks]
      exact tokens_append_of_forall_blank fun d hd ↦ hb d (List.mem_cons_of_mem _ hd)
    rw [tokens_append_blank hcs (hb c List.mem_cons_self), hnil, List.append_nil]

/-- Trimming the end of a line changes at most its last token. -/
theorem dropLast_tokens_trimEnd (cs : List Char) :
    (tokens (trimEnd cs)).dropLast = (tokens cs).dropLast := by
  obtain ⟨blanks, hcs, hblanks⟩ := exists_trimEnd_append cs
  by_cases hbalanced : ClosesQuotes (trimEnd cs)
  · have htokens := tokens_append_blanks hbalanced hblanks
    rw [← hcs] at htokens
    rw [htokens]
  · have hsolid : Solid true blanks :=
      solid_true_of_not_mem fun hq ↦ ne_quote_of_isBlank (hblanks _ hq) rfl
    obtain ⟨init, last, htrim, htokens⟩ := tokens_append_open hbalanced hsolid
    rw [← hcs] at htokens
    rw [htrim, htokens, List.dropLast_concat, List.dropLast_concat]

/-- **Trimming a line leaves its tokens alone**, unless it cuts into an open quote. -/
theorem tokens_trim {cs : List Char}
    (h : ClosesQuotes cs ∨ ∀ c ∈ cs.getLast?, isBlank c = false) :
    tokens (trim cs) = tokens cs := by
  obtain ⟨lead, hlead, hleadBlank⟩ := exists_append_trimStart cs
  have hstart : tokens cs = tokens (trimStart cs) := by
    conv_lhs => rw [hlead]
    exact tokens_append_of_forall_blank hleadBlank
  obtain ⟨tail, htail, htailBlank⟩ := exists_trimEnd_append (trimStart cs)
  rw [hstart, trim]
  rcases h with hbal | hlast
  · -- blank characters are no quotes, so the trimmed line closes its quotes as the line does
    have hleadBal : ClosesQuotes lead :=
      closesQuotes_of_not_mem fun hq ↦ ne_quote_of_isBlank (hleadBlank _ hq) rfl
    have htailBal : ClosesQuotes tail :=
      closesQuotes_of_not_mem fun hq ↦ ne_quote_of_isBlank (htailBlank _ hq) rfl
    have hmid : ClosesQuotes (trimEnd (trimStart cs)) := by
      rw [hlead, htail, ClosesQuotes, List.count_append, List.count_append] at hbal
      rw [ClosesQuotes] at hleadBal htailBal ⊢
      exact (Nat.even_add.1 ((Nat.even_add.1 hbal).1 hleadBal)).2 htailBal
    conv_rhs => rw [htail]
    exact (tokens_append_blanks hmid htailBlank).symm
  · rw [trimEnd_eq_self]
    intro c hc
    refine hlast c ?_
    rw [hlead, List.getLast?_append, Option.mem_def.1 hc]
    rfl

/-! ### The tokens and the gaps between them -/

/-- A line made up of tokens: they stand in it one behind the other, all around them is blank, and
between two of them there is at least one blank character. -/
inductive Tiles : List Token → List Char → Prop
  | none {gap : List Char} (hgap : ∀ c ∈ gap, isBlank c = true) : Tiles [] gap
  | last {gap behind : List Char} (t : Token) (hgap : ∀ c ∈ gap, isBlank c = true)
      (hbehind : ∀ c ∈ behind, isBlank c = true) : Tiles [t] (gap ++ t.raw ++ behind)
  | more {gap rest : List Char} {c : Char} {u : Token} {ts : List Token} (t : Token)
      (hgap : ∀ c ∈ gap, isBlank c = true) (hc : isBlank c = true) (hrest : Tiles (u :: ts) rest) :
      Tiles (t :: u :: ts) (gap ++ t.raw ++ c :: rest)

/-- A blank character may come before everything. -/
theorem Tiles.cons_blank {ts : List Token} {line : List Char} {c : Char} (h : Tiles ts line)
    (hc : isBlank c = true) : Tiles ts (c :: line) := by
  cases h with
  | none hgap => exact .none (List.forall_mem_cons.2 ⟨hc, hgap⟩)
  | last t hgap hbehind => exact .last t (List.forall_mem_cons.2 ⟨hc, hgap⟩) hbehind
  | more t hgap hsep hrest => exact .more t (List.forall_mem_cons.2 ⟨hc, hgap⟩) hsep hrest

/-- A token may come before everything, with a blank character behind it. -/
theorem Tiles.cons_token {ts : List Token} {line : List Char} {c : Char} (h : Tiles ts line)
    (t : Token) (hc : isBlank c = true) : Tiles (t :: ts) (t.raw ++ c :: line) := by
  have hnone : ∀ d ∈ ([] : List Char), isBlank d = true := List.forall_mem_nil _
  rcases ts with - | ⟨u, ts⟩
  · cases h with
    | none hgap => exact .last t hnone (List.forall_mem_cons.2 ⟨hc, hgap⟩)
  · exact .more t hnone hc h

/-- What the loop yields makes up what was read of the first token and what is still to be read. -/
theorem tiles_tokensFrom (q : Bool) (raw cs : List Char) :
    Tiles (tokensFrom q (Token.ofRaw? raw) cs) (raw ++ cs) := by
  -- what is written so far stands at the front of what is still to be made up of tokens
  induction cs generalizing q raw with
  | nil =>
    have hnone : ∀ d ∈ ([] : List Char), isBlank d = true := List.forall_mem_nil _
    rw [tokensFrom]
    by_cases hraw : raw = []
    · rw [hraw]
      exact .none hnone
    · rw [Token.ofRaw?_of_ne_nil hraw]
      exact .last (.ofRaw raw) hnone hnone
  | cons c cs ih =>
    by_cases hcut : (isBlank c && !q) = true
    · have hc : isBlank c = true := (Bool.and_eq_true_iff.1 hcut).1
      have hrest : Tiles (tokens cs) cs := ih false []
      rw [tokensFrom_cons_of_cut hcut]
      by_cases hraw : raw = []
      · rw [hraw]
        exact hrest.cons_blank hc
      · rw [Token.ofRaw?_of_ne_nil hraw]
        exact hrest.cons_token (.ofRaw raw) hc
    · have hrest := ih (if c = '"' then !q else q) (raw ++ [c])
      rwa [← tokensFrom_ofRaw?_cons hcut, List.append_assoc, List.singleton_append] at hrest

/-- **The tokens make up the line**, with blank characters around them and between any two. No token
has one outside quotes, and only the last may leave a quote open. The value of a token is what is
written less the quotes. Any of the tokens, joined in order by spaces, are read back as they are. -/
theorem tokens_tile (line : List Char) :
    Tiles (tokens line) line ∧ IsLine (tokens line) ∧
      (∀ t ∈ tokens line, t.text.toList = t.raw.filter (· ≠ '"')) ∧
      ∀ ts, ts.Sublist (tokens line) → tokens (joined ts).toList = ts := by
  refine ⟨tiles_tokensFrom false [] line, isLine_tokens line, fun t ht ↦ ?_, fun ts hts ↦ ?_⟩
  · rw [Token.text, String.toList_ofList, ((isLine_tokens line).wellFormed t ht).chars_eq]
    refine List.filter_congr fun c _ ↦ ?_
    by_cases hc : c = '"' <;> simp [hc]
  · exact tokens_joined ((isLine_tokens line).sublist hts)

/-- Two of three tokens, the last with a quote that is never closed. -/
theorem tokens_tile_open_quote :
    tokens "\"a b\"c  -x \"y z ".toList =
        [⟨"\"a b\"c".toList, "a bc".toList⟩, ⟨"-x".toList, "-x".toList⟩,
          ⟨"\"y z ".toList, "y z ".toList⟩] ∧
      tokens (joined [⟨"\"a b\"c".toList, "a bc".toList⟩,
        ⟨"\"y z ".toList, "y z ".toList⟩]).toList =
        [⟨"\"a b\"c".toList, "a bc".toList⟩, ⟨"\"y z ".toList, "y z ".toList⟩] :=
  ⟨by decide, (tokens_tile "\"a b\"c  -x \"y z ".toList).2.2.2 _ (by decide)⟩

end ServerSetup.CommandLine
