import ServerSetup.Proofs.Profile.Reformatting

/-!
# Values that stay one argument

A value with blank characters is put into quotes so that it is read back as one argument. Quotes
that stand in the value itself undo this: `a" -preview "b` closes the quote that was put before it
and opens another, and what stands between them is read as a flag.

`IsOneArgument` says of a value that it is read back as one token that is no flag. The main result
(`parse_withText`) compares the line of a profile with a value and without it. The value is read
back as a whole, and nothing else differs, exactly if it is one argument, so that two such values
make lines which differ in this value alone. One half of it is a fact about sorting tokens that
holds of any tokens (`ofTokens_flag_append`). The other half counts characters: where a value of
several tokens loses nothing to the extra arguments, one of its tokens is a flag, and what is read
back is shorter than the value (`forall_flag?_eq_none_of_value`).
-/

namespace ServerSetup

open CommandLine Text

namespace CommandLine

/-! ### Values as single tokens -/

/-- A value that is written as one token, and as none that is a flag. -/
def IsOneArgument (v : String) : Prop :=
  ∃ t, tokens (asOneToken v).toList = [t] ∧ t.flag? = none

/-- All that a value says: the characters of its tokens. -/
def heldText (v : String) : String :=
  String.ofList ((tokens (asOneToken v).toList).flatMap Token.chars)

instance (v : String) : Decidable (IsOneArgument v) :=
  match h : tokens (asOneToken v).toList with
  | [t] => decidable_of_iff (t.flag? = none) (by simp [IsOneArgument, h])
  | [] => .isFalse (by simp [IsOneArgument, h])
  | _ :: _ :: _ => .isFalse (by simp [IsOneArgument, h])

/-- What is held of a value that is one token is the text of this token. -/
theorem heldText_of_tokens {v : String} {t : Token}
    (h : tokens (asOneToken v).toList = [t]) : heldText v = t.text := by
  rw [heldText, h, List.flatMap_singleton, Token.text]

/-- A value without quotes is one argument, and is held as it is. -/
theorem IsValue.isOneArgument {v : String} (h : IsValue v) :
    IsOneArgument v ∧ heldText v = v := by
  have htokens : tokens (asOneToken v).toList = [valueToken v] := by
    rw [h.tokens_asOneToken, if_neg h.ne_empty]
  exact ⟨⟨_, htokens, h.flag?_valueToken⟩, (heldText_of_tokens htokens).trans h.text_valueToken⟩

/-- Enclosing a value in quotes leaves no quote open where the value leaves none open. -/
theorem closesQuotes_asOneToken {v : String} (h : ClosesQuotes v.toList) :
    ClosesQuotes (asOneToken v).toList := by
  rw [asOneToken]
  split
  · have hquoted : ClosesQuotes (['"'] ++ v.toList ++ ['"']) := by
      rw [ClosesQuotes, List.count_append, List.count_append] at *
      simpa [parity_simps] using h
    simpa using hquoted
  · exact h

/-- A value that is not empty is written with at least one token. -/
theorem tokens_asOneToken_ne_nil {v : String} (h : v ≠ "") :
    tokens (asOneToken v).toList ≠ [] := by
  refine tokens_ne_nil ?_
  rw [asOneToken]
  split
  · exact ⟨'"', by simp, by decide⟩
  · rename_i hcond
    rcases hv : v.toList with - | ⟨c, cs⟩
    · exact absurd (by simpa using hv) h
    · refine ⟨c, List.mem_cons_self, ?_⟩
      by_contra hblank
      rw [hv] at hcond
      rw [Bool.not_eq_false] at hblank
      have hne := ne_quote_of_isBlank hblank
      simp [hblank, hne] at hcond

/-! ### Sorting a flag with the tokens of its value -/

namespace Arguments

variable {args : Arguments} {f : ValueFlag} {t u : Token} {ts us : List Token}

/-- **A flag with one token behind it sets its own value only**, if it does not come again. -/
theorem ofTokens_flag_append (ht : t.flag? = some (.value f)) (hu : u.flag? = none)
    (hus : ∀ v ∈ us.dropLast, v.flag? ≠ some (.value f)) :
    ofTokens args (t :: u :: us) =
      ((ofTokens args us).1.set f u.text, (ofTokens args us).2) := by
  rw [ofTokens_value ht hu, ofTokens_set hus]

/-- The value of a flag is a text that stands between the flag and what follows, if the tokens that
belong to no flag are those of what follows. -/
theorem exists_text_of_value {v : String} (hargs : args.value f = none)
    (hus : ∀ u ∈ us.dropLast, u.flag? ≠ some (.value f))
    (hvalue : (ofTokens args (ts ++ us)).1.value f = some v)
    (hothers : (ofTokens args (ts ++ us)).2 = (ofTokens args us).2) :
    ∃ y ∈ ts, y.flag? = none ∧ y.text = v := by
  have hts (h : (ofTokens args ts).1.value f = some v) : ∃ y ∈ ts, y.flag? = none ∧ y.text = v :=
    (value_ofTokens h).resolve_left (by simp [hargs])
  -- If the tokens behind start with a flag, the value is among those in front. Otherwise their
  -- first token may be the value of a flag at the end of the front.
  by_cases hhead : ∀ u ∈ us.head?, u.flag?.isSome
  · refine hts ?_
    rwa [ofTokens_append hhead, value_ofTokens_of_dropLast hus] at hvalue
  · obtain ⟨e, us', rfl, he⟩ : ∃ e us', us = e :: us' ∧ e.flag? = none := by
      rcases us with - | ⟨e, us'⟩
      · exact absurd (by simp) hhead
      · exact ⟨e, us', rfl, by simpa using hhead⟩
    have hus' := forall_mem_dropLast_of_cons hus
    rcases @ofTokens_append_cons args e ts us' he with h | ⟨g, h⟩
    · refine hts ?_
      rwa [h, value_ofTokens_of_dropLast hus] at hvalue
    · rw [h, value_ofTokens_of_dropLast hus'] at hvalue
      by_cases hg : g = f
      · -- the last token takes `e`, so another `e` must have been left over in its place
        subst hg
        have hrest : (ofTokens args (e :: us')).2 = e :: (ofTokens (args.set g e.text) us').2 := by
          rw [ofTokens_other he, ofTokens_set hus']
        have hrest' : (ofTokens ((ofTokens args ts).1.set g e.text) us').2 =
            (ofTokens (args.set g e.text) us').2 := others_ofTokens _ _ _
        rw [h, hrest, hrest'] at hothers
        have hleft : (ofTokens args ts).2 = [e] :=
          List.append_cancel_right (hothers.trans (List.singleton_append ..).symm)
        have hmem : e ∈ ts := sublist_ofTokens.subset (hleft ▸ List.mem_singleton_self e)
        exact ⟨e, hmem, he, Option.some.inj (by simpa using hvalue)⟩
      · refine hts ?_
        rwa [value_set_of_ne _ (Ne.symm hg)] at hvalue

/-- A value may be set before the sorted tokens are finished or after it. -/
theorem finish_set (sorted : Arguments × List Token) (f : ValueFlag) (v : String) :
    finish (sorted.1.set f v, sorted.2) = (finish sorted).set f v := rfl

theorem set_set (args : Arguments) (f : ValueFlag) (v w : String) :
    (args.set f v).set f w = args.set f w := by
  simp only [set, mk.injEq, true_and, and_true]
  funext g
  by_cases hg : g = f <;> simp [hg]

/-- The extra text says which tokens belong to no flag. -/
theorem others_eq_of_extra_finish {sorted sorted' : Arguments × List Token}
    (h : IsLine sorted.2) (h' : IsLine sorted'.2)
    (hextra : (finish sorted).extra = (finish sorted').extra) : sorted.2 = sorted'.2 := by
  have htokens := @ServiceProfile.tokens_extra_finish sorted.1 _ h
  have htokens' := @ServiceProfile.tokens_extra_finish sorted'.1 _ h'
  rw [show (sorted.1, sorted.2) = sorted from rfl, hextra] at htokens
  exact htokens.symm.trans htokens'

/-- One token that is a flag makes the tokens beside it shorter than all of them together. -/
theorem length_chars_lt {y z : Token} (hy : y ∈ ts) (hz : z ∈ ts) (hflag : y.flag? = none)
    (hz' : z.flag? ≠ none) : y.chars.length < (ts.flatMap Token.chars).length := by
  have hchars : 0 < z.chars.length := by
    rw [List.length_pos_iff]
    intro hnil
    refine hz' ?_
    rw [Token.flag?, hnil]
    decide
  obtain ⟨front, behind, rfl⟩ := List.mem_iff_append.1 hz
  have hne : y ≠ z := by
    rintro rfl
    exact hz' hflag
  have hy' : y ∈ front ++ behind := by
    rw [List.mem_append, List.mem_cons] at hy
    rw [List.mem_append]
    exact hy.imp_right fun h ↦ h.resolve_left hne
  obtain ⟨front', behind', h⟩ := List.mem_iff_append.1 hy'
  have hlength : ((front ++ behind).flatMap Token.chars).length =
      ((front' ++ y :: behind').flatMap Token.chars).length := by rw [h]
  simp only [List.flatMap_append, List.flatMap_cons, List.length_append] at hlength ⊢
  omega

/-- **A value that is read back as a whole has no flag among its tokens.** What is read back is the
text of one token, and beside a flag it would not be all. -/
theorem forall_flag?_eq_none_of_value (hargs : args.value f = none)
    (ht : t.flag? = some (.value f)) (hus : ∀ u ∈ us.dropLast, u.flag? ≠ some (.value f))
    (hvalue : (ofTokens args (t :: ts ++ us)).1.value f =
      some (String.ofList (ts.flatMap Token.chars)))
    (hothers : (ofTokens args (t :: ts ++ us)).2 = (ofTokens args us).2) :
    ∀ z ∈ ts, z.flag? = none := by
  obtain ⟨y, hy, hnone, htext⟩ := exists_text_of_value hargs hus hvalue hothers
  have hy' : y ∈ ts := by
    refine (List.mem_cons.1 hy).resolve_left ?_
    rintro rfl
    rw [ht] at hnone
    cases hnone
  intro z hz
  by_contra hflag
  have hlt := length_chars_lt hy' hz hnone hflag
  have hchars : y.chars = ts.flatMap Token.chars := String.ofList_injective htext
  rw [hchars] at hlt
  exact lt_irrefl _ hlt

/-- **A value that is read back as a whole, with nothing left over, is one token.** -/
theorem exists_eq_singleton_of_value (hargs : args.value f = none)
    (ht : t.flag? = some (.value f)) (hts : ts ≠ [])
    (hus : ∀ u ∈ us.dropLast, u.flag? ≠ some (.value f))
    (hvalue : (ofTokens args (t :: ts ++ us)).1.value f =
      some (String.ofList (ts.flatMap Token.chars)))
    (hothers : (ofTokens args (t :: ts ++ us)).2 = (ofTokens args us).2) :
    ∃ u, ts = [u] ∧ u.flag? = none := by
  have hnone := forall_flag?_eq_none_of_value hargs ht hus hvalue hothers
  obtain ⟨u, ts, rfl⟩ := List.exists_cons_of_ne_nil hts
  obtain ⟨hu, hts⟩ := List.forall_mem_cons.1 hnone
  refine ⟨u, ?_, hu⟩
  rw [List.cons_append, List.cons_append, ofTokens_value ht hu,
    ofTokens_append_of_forall_none hts] at hothers
  have hlength := congrArg List.length hothers
  rw [List.length_append, others_ofTokens _ args us] at hlength
  have hnil : ts = [] := List.length_eq_zero_iff.1 (by omega)
  rw [hnil]

end Arguments

end CommandLine

/-! ### Texts of a profile -/

/-- The texts of a profile that a user may leave out. -/
inductive TextField
  | confFile | rootDirectory | logDirectory | serverId
deriving DecidableEq

/-- The flag behind which a text is written. -/
def TextField.flag : TextField → ValueFlag
  | confFile => .conf
  | rootDirectory => .rootDirectory
  | logDirectory => .logDirectory
  | serverId => .server

namespace ServiceProfile

variable {d : ServiceProfile} {x : TextField} {v w : String}

/-- A profile with one of its texts set. A server id takes the place of an address. -/
def withText (d : ServiceProfile) (x : TextField) (v : String) : ServiceProfile :=
  match x with
  | .confFile => { d with confFile := some v }
  | .rootDirectory => { d with rootDirectory := some v }
  | .logDirectory => { d with logDirectory := some v }
  | .serverId => { d with server := .fixed v }

/-- A profile with one of its texts left out. -/
def withoutText (d : ServiceProfile) (x : TextField) : ServiceProfile :=
  match x with
  | .confFile => { d with confFile := none }
  | .rootDirectory => { d with rootDirectory := none }
  | .logDirectory => { d with logDirectory := none }
  | .serverId => { d with server := .unspecified }

@[simp] theorem isPreview_withText : (d.withText x v).isPreview = d.isPreview := by cases x <;> rfl

@[simp] theorem isPreview_withoutText : (d.withoutText x).isPreview = d.isPreview := by
  cases x <;> rfl

@[simp] theorem extraArguments_withText :
    (d.withText x v).extraArguments = d.extraArguments := by
  cases x <;> rfl

@[simp] theorem extraArguments_withoutText :
    (d.withoutText x).extraArguments = d.extraArguments := by
  cases x <;> rfl

/-- The line of a profile without a text does not show the flag of it. -/
theorem written_withoutText_self : (d.withoutText x).written x.flag = none := by
  cases x <;> rfl

/-- A text that is set is written behind its flag, and all others are written as without it. -/
theorem written_withText (hv : v ≠ "") :
    (d.withText x v).written = Function.update (d.withoutText x).written x.flag (some v) := by
  funext f
  cases x <;> cases f <;> first
    | rfl
    | exact ifNonEmpty_some hv

/-! ### The tokens of the line -/

/-- The parts of a line before its extra arguments close their quotes, if each text does. -/
theorem closesQuotes_of_written (h : ∀ f, ∀ v ∈ d.written f, ClosesQuotes v.toList) :
    ∀ p ∈ d.flagParts, ClosesQuotes p.toList :=
  forall_mem_flagParts (fun f ↦ closesQuotes_of_not_mem f.quote_not_mem_text)
    fun f v hv ↦ closesQuotes_asOneToken (h f v hv)

theorem extraArguments_of_extraText (h : d.extraText ≠ "") :
    d.extraArguments = some d.extraText := by
  rcases he : d.extraArguments with - | e
  · exact absurd (by rw [extraText, he, Option.getD_none]) h
  · rw [extraText, he, Option.getD_some]

/-- **Trimming a line trims its extra arguments.** -/
theorem trim_argumentLine (h : ∃ c ∈ d.extraText.toList, isBlank c = false) :
    trim d.argumentLine.toList = (argumentLine { d with
      extraArguments := some (String.ofList (trimEnd d.extraText.toList)) }).toList := by
  have hextra : d.extraText ≠ "" := by
    intro he
    simp [he] at h
  have htrimmed : String.ofList (trimEnd d.extraText.toList) ≠ "" := by
    intro he
    obtain ⟨c, hc, hnot⟩ := h
    obtain ⟨blanks, hblanks, hblank⟩ := exists_trimEnd_append d.extraText.toList
    rw [hblanks, String.ofList_eq_empty_iff.1 he, List.nil_append] at hc
    rw [hblank c hc] at hnot
    cases hnot
  have hstart : trimStart d.argumentLine.toList = d.argumentLine.toList := by
    refine trimStart_eq_self fun c hc ↦ ?_
    rw [head?_argumentLine, Option.mem_some_iff] at hc
    rw [← hc]
    decide
  rw [trim, hstart, argumentLine_eq_append (extraArguments_of_extraText hextra) hextra,
    argumentLine_eq_append rfl htrimmed, String.toList_append, trimEnd_append h]
  simp only [String.toList_append, String.toList_ofList]
  rfl

/-- Trimming the line trims its extra arguments at their end. -/
theorem tokens_trim_argumentLine_of_closesQuotes (h : ∀ p ∈ d.flagParts, ClosesQuotes p.toList) :
    tokens (trim d.argumentLine.toList) =
      d.flagTokens ++ tokens (trimEnd d.extraText.toList) := by
  by_cases hextra : ∃ c ∈ d.extraText.toList, isBlank c = false
  · rw [trim_argumentLine hextra, tokens_argumentLine_of_closesQuotes (by exact h)]
    show d.flagTokens ++ tokens (String.ofList (trimEnd d.extraText.toList)).toList = _
    rw [String.toList_ofList]
  · obtain ⟨blanks, hblanks, hblank⟩ := exists_trimEnd_append d.extraText.toList
    have hquote : '"' ∉ d.extraText.toList := by
      intro hq
      exact hextra ⟨'"', hq, by decide⟩
    have hfront : '"' ∉ trimEnd d.extraText.toList := by
      intro hq
      exact hquote (hblanks ▸ List.mem_append_left _ hq)
    have htokens : tokens d.extraText.toList = tokens (trimEnd d.extraText.toList) := by
      conv_lhs => rw [hblanks]
      exact tokens_append_blanks (closesQuotes_of_not_mem hfront) hblank
    rw [tokens_trim (Or.inl (closesQuotes_argumentLine h (closesQuotes_of_not_mem hquote))),
      tokens_argumentLine_of_closesQuotes h, htokens]

/-- The tokens of a value stand behind its flag, between tokens that do not depend on it. Those
before it are values with their flags, and the flag does not come again. -/
theorem exists_flagTokens_withText (d : ServiceProfile) (x : TextField)
    (h : (d.withoutText x).Quotable) :
    ∃ fs behind, x.flag ∉ fs ∧ (∀ t ∈ behind, t.flag? ≠ some (.value x.flag)) ∧
      (d.withoutText x).flagTokens = Flag.service.token ::
        (partTokens (valueParts (d.withoutText x).written fs) ++ behind) ∧
      ∀ v ≠ "", (d.withText x v).flagTokens = Flag.service.token ::
        (partTokens (valueParts (d.withoutText x).written fs) ++
          ((Flag.value x.flag).token :: tokens (asOneToken v).toList ++ behind)) := by
  have hmem : x.flag ∈ leadingFlags := by cases x <;> decide
  have hports : x.flag ∉ portFlags := by cases x <;> decide
  obtain ⟨fs, gs, hsplit⟩ := List.append_of_mem hmem
  -- No flag is listed twice, so neither half has this one.
  have hnodup : (fs ++ x.flag :: gs).Nodup := hsplit ▸ by decide
  obtain ⟨-, htail, hdisjoint⟩ := List.nodup_append.1 hnodup
  have hfs : x.flag ∉ fs := fun hmem ↦ hdisjoint _ hmem _ List.mem_cons_self rfl
  have hgs : x.flag ∉ gs := (List.nodup_cons.1 htail).1
  refine ⟨fs, partTokens (valueParts (d.withoutText x).written gs) ++
    ((if d.isPreview then [Flag.preview.token] else []) ++
      partTokens (valueParts (d.withoutText x).written portFlags)), hfs, ?_, ?_, ?_⟩
  · intro t ht
    rw [List.mem_append, List.mem_append] at ht
    rcases ht with ht | ht | ht
    · exact flag?_of_mem_valueParts h hgs t ht
    · exact flag?_of_mem_preview t ht
    · exact flag?_of_mem_valueParts h hports t ht
  · rw [flagTokens, hsplit, valueParts_append, valueParts_cons, written_withoutText_self,
      isPreview_withoutText]
    simp [valuePart]
  · intro v hv
    rw [flagTokens, hsplit, valueParts_append, valueParts_cons, written_withText hv,
      valueParts_update hfs, valueParts_update hgs, valueParts_update hports,
      Function.update_self, isPreview_withText]
    have hflag : tokens x.flag.text.toList = [(Flag.value x.flag).token] :=
      tokens_flagText (.value x.flag)
    simp [valuePart, hflag]

/-! ### Reading the line -/

/-- No token of the extra arguments is a flag. -/
def PlainExtra (d : ServiceProfile) : Prop := ∀ t ∈ tokens d.extraText.toList, ¬ SpellsFlag t.text

instance : Decidable d.PlainExtra :=
  inferInstanceAs (Decidable (∀ t ∈ tokens d.extraText.toList, ¬ SpellsFlag t.text))

/-- The line is read by sorting the tokens of its flags and of the extra arguments. -/
theorem parse_argumentLine_of_closesQuotes (h : ∀ p ∈ d.flagParts, ClosesQuotes p.toList) :
    Arguments.parse d.argumentLine = Arguments.finish
      (Arguments.ofTokens .empty (d.flagTokens ++ tokens (trimEnd d.extraText.toList))) := by
  have htokens := tokens_trim_argumentLine_of_closesQuotes h
  rw [flagTokens, List.cons_append] at htokens ⊢
  refine Arguments.parse_eq (leadingExecutable_of_dash (head?_trim d.head?_argumentLine (by decide))
    htokens ?_)
  rw [Flag.chars_token]
  exact Flag.head?_text _

/-- The lines of a profile with a text and without it are sorted alike up to the flag of the text,
and have the same tokens behind its value. -/
theorem exists_parse_withText (d : ServiceProfile) (x : TextField)
    (h : (d.withoutText x).WritableTexts) (hextra : d.PlainExtra) :
    ∃ args us, args.value x.flag = none ∧ (∀ u ∈ us.dropLast, u.flag? ≠ some (.value x.flag)) ∧
      Arguments.parse (d.withoutText x).argumentLine =
        Arguments.finish (Arguments.ofTokens args us) ∧
      ∀ v ≠ "", ClosesQuotes v.toList →
        Arguments.parse (d.withText x v).argumentLine = Arguments.finish (Arguments.ofTokens args
          ((Flag.value x.flag).token :: tokens (asOneToken v).toList ++ us)) ∧
        IsLine ((Flag.value x.flag).token :: tokens (asOneToken v).toList ++ us) := by
  have hwritten := h.isValue_written
  obtain ⟨fs, behind, hfs, hbehind, hwithout, hwith⟩ :=
    exists_flagTokens_withText d x fun f v hv ↦ (hwritten f v hv).toIsQuotable
  have hextraText : (d.withoutText x).extraText = d.extraText := by
    rw [extraText, extraText, extraArguments_withoutText]
  have hextraText' (v : String) : (d.withText x v).extraText = d.extraText := by
    rw [extraText, extraText, extraArguments_withText]
  -- The arguments in front of the value, and the tokens behind it, are those of the profile
  -- without the text.
  let args := withValues { Arguments.empty with service := true } (d.withoutText x).written fs
  let us := behind ++ tokens (trimEnd d.extraText.toList)
  have hfront (rest : List Token) : Arguments.ofTokens .empty (Flag.service.token ::
      (partTokens (valueParts (d.withoutText x).written fs) ++ rest)) =
      Arguments.ofTokens args rest := by
    rw [Arguments.ofTokens_service (Flag.flag?_token .service)]
    exact ofTokens_valueParts fun f _ v hv ↦ hwritten f v hv
  refine ⟨args, us, if_neg hfs, ?_, ?_, ?_⟩
  · -- trimming changes the last token of the extra arguments at most
    intro u hu
    rcases hlast : tokens (trimEnd d.extraText.toList) with - | ⟨t, ts⟩
    · rw [show us = behind by simp [us, hlast]] at hu
      exact hbehind u (List.dropLast_subset _ hu)
    · rw [List.dropLast_append_of_ne_nil (by simp [hlast]), dropLast_tokens_trimEnd,
        List.mem_append] at hu
      rcases hu with hu | hu
      · exact hbehind u hu
      · rw [Token.flag?_eq_none_iff.2 (hextra u (List.dropLast_subset _ hu))]
        exact (Option.some_ne_none _).symm
  · rw [parse_argumentLine_of_closesQuotes (closesQuotes_of_written fun f v hv ↦
      closesQuotes_of_not_mem (hwritten f v hv).no_quote), hwithout, hextraText, List.cons_append,
      List.append_assoc, hfront]
  · intro v hv hquotes
    have hclosed : ∀ p ∈ (d.withText x v).flagParts, ClosesQuotes p.toList := by
      refine closesQuotes_of_written fun f u hu ↦ ?_
      rw [written_withText hv, Function.update_apply] at hu
      split at hu
      · rwa [← Option.some.inj hu]
      · exact closesQuotes_of_not_mem (hwritten f u hu).no_quote
    have htokens := tokens_trim_argumentLine_of_closesQuotes hclosed
    rw [hextraText' v, hwith v hv, List.cons_append, List.append_assoc, List.append_assoc]
      at htokens
    refine ⟨?_, (isLine_tokens (trim (d.withText x v).argumentLine.toList)).sublist ?_⟩
    · rw [parse_argumentLine_of_closesQuotes hclosed, hwith v hv, hextraText', List.cons_append,
        List.append_assoc, hfront, List.append_assoc]
    · rw [htokens]
      exact ((List.sublist_append_right ..)).cons _

/-- **A value is read back as a whole, and nothing else with it, exactly if it is one argument.**
The other texts of the profile are values, its extra arguments contain no flag, and the value closes
its quotes. Two values that are one argument each make lines that differ in this value alone: the
switches, the ports, the name, the home and the extra arguments are read as without it. -/
theorem parse_withText (d : ServiceProfile) (x : TextField)
    (h : (d.withoutText x).WritableTexts) (hextra : d.PlainExtra) :
    (∀ v ≠ "", ClosesQuotes v.toList →
      (Arguments.parse (d.withText x v).argumentLine =
          (Arguments.parse (d.withoutText x).argumentLine).set x.flag (heldText v) ↔
        IsOneArgument v)) ∧
    ∀ v ≠ "", ClosesQuotes v.toList → IsOneArgument v →
      ∀ w ≠ "", ClosesQuotes w.toList → IsOneArgument w →
        Arguments.parse (d.withText x w).argumentLine =
          (Arguments.parse (d.withText x v).argumentLine).set x.flag (heldText w) := by
  obtain ⟨args, us, hargs, hus, hwithout, hwith⟩ := exists_parse_withText d x h hextra
  have hflag : (Flag.value x.flag).token.flag? = some (.value x.flag) := Flag.flag?_token _
  have hone {v : String} (hv : v ≠ "") (hquotes : ClosesQuotes v.toList) (hv' : IsOneArgument v) :
      Arguments.parse (d.withText x v).argumentLine =
        (Arguments.parse (d.withoutText x).argumentLine).set x.flag (heldText v) := by
    obtain ⟨t, ht, hnone⟩ := hv'
    rw [(hwith v hv hquotes).1, hwithout, ht, heldText_of_tokens ht, List.cons_append,
      List.singleton_append, Arguments.ofTokens_flag_append hflag hnone hus, Arguments.finish_set]
  refine ⟨fun v hv hquotes ↦ ⟨fun heq ↦ ?_, hone hv hquotes⟩, ?_⟩
  · obtain ⟨hparse, hline⟩ := hwith v hv hquotes
    rw [hparse, hwithout] at heq
    refine Arguments.exists_eq_singleton_of_value hargs hflag (tokens_asOneToken_ne_nil hv) hus
      ?_ ?_
    · rw [← Arguments.value_finish, heq, Arguments.value_set_self, heldText]
    · have hus : IsLine us := hline.sublist (List.sublist_append_right ..)
      refine Arguments.others_eq_of_extra_finish (hline.sublist Arguments.sublist_ofTokens)
        (hus.sublist Arguments.sublist_ofTokens) ?_
      rw [heq]
      rfl
  · intro v hv hquotes hv' w hw hquotes' hw'
    rw [hone hv hquotes hv', hone hw hquotes' hw', Arguments.set_set]

/-- Quotes in a value are lost, and two values with quotes in different places are read as one. -/
theorem sample_withText :
    (sample.withoutText .confFile).WritableTexts ∧ sample.PlainExtra ∧
      IsOneArgument "\"my conf\"/resin.conf" ∧ IsOneArgument "resin\"\".conf" ∧
      Arguments.parse (sample.withText .confFile "\"my conf\"/resin.conf").argumentLine =
        (Arguments.parse (sample.withText .confFile "resin\"\".conf").argumentLine).set .conf
          "my conf/resin.conf" := by
  have hone : IsOneArgument "\"my conf\"/resin.conf" := by decide +kernel
  have hone' : IsOneArgument "resin\"\".conf" := by decide +kernel
  have hextra : sample.PlainExtra := by decide +kernel
  have hheld : heldText "\"my conf\"/resin.conf" = "my conf/resin.conf" := by decide +kernel
  refine ⟨writable_sample.toWritableTexts, hextra, hone, hone', ?_⟩
  rw [← hheld]
  exact (parse_withText sample .confFile writable_sample.toWritableTexts hextra).2 _ (by decide)
    (by decide) hone' _ (by decide) (by decide) hone

/-- Two values for the configuration file, of which the second switches the preview stage on. -/
theorem preview_of_confFile :
    let plain : ServiceProfile := { name := "n", home := "h" }
    let spilling := "a\" -preview \"b"
    IsValue plain.name ∧ IsValue plain.home ∧ plain.PlainExtra ∧
      ClosesQuotes spilling.toList ∧ ¬ SpellsFlag spilling ∧ IsValue "a" ∧
      ∀ u, Arguments.parse (plain.withText .confFile spilling).argumentLine ≠
        (Arguments.parse (plain.withText .confFile "a").argumentLine).set .conf u := by
  refine ⟨by decide, by decide, by decide, by decide, by decide, by decide, fun u he ↦ ?_⟩
  have hspilled : (Arguments.parse (withText { name := "n", home := "h" } .confFile
      "a\" -preview \"b").argumentLine).preview = true := by decide +kernel
  have hkept : (Arguments.parse (withText { name := "n", home := "h" } .confFile
      "a").argumentLine).preview = false := by decide +kernel
  have hpreview : true = false := hspilled.symm.trans ((congrArg Arguments.preview he).trans hkept)
  cases hpreview

end ServiceProfile

end ServerSetup
