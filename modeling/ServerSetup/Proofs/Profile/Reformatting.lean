import ServerSetup.Proofs.Profile.RoundTrip

/-!
# Reading any line, writing it, and reading it again

Whatever a line says, the profile that is made of it is readable (`readable_ofArguments`): what
stands behind a flag has lost its quotes and is no flag, and the extra arguments are tokens of one
line. Only one thing can still go wrong when this profile is written: a text in quotes with nothing
between them is kept, but an empty text is written as nothing at all, so that its flag takes the
next token or none. The main result says that this is the only case in which a second reading writes
another line.

That it is always another line needs a measure. A line is longer than its tokens with single spaces
between them by exactly the number of its empty texts (`length_argumentLine`), so this number can be
read off the line; and a profile that comes back from its own line has none
(`noEmptyText_of_fixed`).
-/

namespace ServerSetup

open CommandLine Text

namespace CommandLine

/-! ### The sorted tokens of a line -/

/-- The tokens behind the executable are tokens of a line that ends like the whole. -/
theorem exists_sublist_leadingExecutable (line : List Char) :
    ∃ cs, (leadingExecutable line).2.Sublist (tokens cs) ∧
      ∀ c ∈ cs.getLast?, c ∈ line.getLast? := by
  rw [leadingExecutable]
  split
  · rename_i exe rest hplain
    obtain ⟨-, hcut, -⟩ := plainExecutable?_eq_some_iff.1 hplain
    refine ⟨rest, List.Sublist.refl _, fun c hc ↦ ?_⟩
    rw [append_of_cutAfterExe hcut, List.getLast?_append, Option.mem_def.1 hc]
    rfl
  · refine ⟨line, ?_, fun c hc ↦ hc⟩
    rcases tokens line with - | ⟨first, rest⟩
    · exact List.Sublist.refl _
    · dsimp only
      split
      · exact List.Sublist.refl _
      · exact List.sublist_cons_self first rest

/-- The tokens of a trimmed line that belong to no flag. -/
theorem isLine_leadingExecutable (line : List Char) :
    IsLine (leadingExecutable (trim line)).2 ∧
      ∀ t ∈ (leadingExecutable (trim line)).2, ∀ c ∈ t.raw.getLast?, isBlank c = false := by
  obtain ⟨cs, hsub, hlast⟩ := exists_sublist_leadingExecutable (trim line)
  refine ⟨(isLine_tokens cs).sublist hsub, fun t ht ↦ ?_⟩
  exact isBlank_getLast?_of_mem_tokens
    (fun c hc ↦ isBlank_getLast?_trim line c (hlast c hc)) t (hsub.subset ht)

/-- Joined tokens end as the last of them. -/
theorem getLast?_joined {ts : List Token} (h : IsLine ts)
    (hlast : ∀ t ∈ ts, ∀ c ∈ t.raw.getLast?, isBlank c = false) :
    ∀ c ∈ (joined ts).toList.getLast?, isBlank c = false := by
  rw [toList_joined]
  induction ts with
  | nil => simp
  | cons t ts ih =>
    have hts := h.sublist (List.sublist_cons_self t ts)
    rcases hcase : ts with - | ⟨u, us⟩
    · simpa using hlast t List.mem_cons_self
    · rw [hcase] at ih hts hlast
      have hne : [' '].intercalate ((u :: us).map Token.raw) ≠ [] := by
        have hu := (hts.wellFormed u List.mem_cons_self).ne_nil
        rcases us with - | ⟨v, us⟩ <;> simp [hu]
      rw [List.map_cons, List.map_cons, List.intercalate_cons_cons, ← List.map_cons,
        List.getLast?_append_of_ne_nil _ hne]
      exact ih hts fun v hv ↦ hlast v (List.mem_cons_of_mem _ hv)

/-- A token that is no flag has a text that can stand in quotes. -/
theorem isQuotable_text {t : Token} (ht : t.WellFormed) (h : t.flag? = none) :
    IsQuotable t.text where
  no_quote hq := by
    rw [Token.text, String.toList_ofList, ht.chars_eq, List.mem_filter] at hq
    exact absurd hq.2 (by decide)
  not_flag := Token.flag?_eq_none_iff.1 h

/-- The extra text of sorted tokens has these tokens. -/
theorem readableExtra_joined {ts : List Token} (h : IsLine ts) (hne : ts ≠ [])
    (hflag : ∀ t ∈ ts, t.flag? = none)
    (hlast : ∀ t ∈ ts, ∀ c ∈ t.raw.getLast?, isBlank c = false) : ReadableExtra (joined ts) where
  ne_empty he := by
    have htokens := tokens_joined h
    rw [he] at htokens
    exact hne htokens.symm
  joined := by rw [tokens_joined h]
  not_flag t ht := by
    rw [tokens_joined h] at ht
    exact Token.flag?_eq_none_iff.1 (hflag t ht)
  closed := Or.inr (getLast?_joined h hlast)

end CommandLine

namespace ServiceProfile

variable {d : ServiceProfile} {f : ValueFlag} {v : String}

/-- A fixed server is the value of its flag, which is not empty. -/
theorem value_of_serverOf_fixed {args : Arguments} (h : serverOf args = .fixed v) :
    args.value .server = some v ∧ v ≠ "" := by
  rw [serverOf] at h
  split at h
  · rename_i id _ hid
    rw [← ServerChoice.fixed.inj h]
    exact ne_empty_of_ifNonEmpty hid
  · cases h
  · cases h

/-- A dynamic server is the value of its flag, which is not empty. -/
theorem value_of_serverOf_dynamic {args : Arguments} (h : serverOf args = .dynamic v) :
    args.value .dynamicServer = some v ∧ v ≠ "" := by
  rw [serverOf] at h
  split at h
  · cases h
  · rename_i address _ haddress
    rw [← ServerChoice.dynamic.inj h]
    exact ne_empty_of_ifNonEmpty haddress
  · cases h

/-- **A profile that comes from a line is readable.** -/
theorem readable_ofArguments {name home : String} (line : String) (hname : IsQuotable name)
    (hhome : IsQuotable home) : (ofArguments name home (Arguments.parse line)).Readable := by
  rcases hlead : leadingExecutable (trim line.toList) with ⟨exe, ts⟩
  obtain ⟨hline, hlast⟩ := isLine_leadingExecutable line.toList
  rw [hlead] at hline hlast
  rw [Arguments.parse_eq hlead]
  set sorted := Arguments.ofTokens (Arguments.startingWith exe) ts with hsorted
  -- Every value is the text of a token, except that of the leading executable.
  have hvalue : ∀ f ≠ ValueFlag.exe, ∀ v ∈ sorted.1.value f, IsQuotable v := by
    intro f hf v hv
    rcases Arguments.value_ofTokens hv with hstart | ⟨t, ht, hflag, rfl⟩
    · rcases exe with - | path
      · cases hstart
      · rw [Arguments.startingWith, Arguments.value_set_of_ne _ hf] at hstart
        cases hstart
    · exact isQuotable_text (hline.wellFormed t ht) hflag
  have hserver {v : String} : serverOf (Arguments.finish sorted) = .fixed v ∨
      serverOf (Arguments.finish sorted) = .dynamic v → IsValue v := by
    rintro (h | h)
    · obtain ⟨hv, hne⟩ := value_of_serverOf_fixed h
      exact ⟨hvalue .server (by decide) v hv, hne⟩
    · obtain ⟨hv, hne⟩ := value_of_serverOf_dynamic h
      exact ⟨hvalue .dynamicServer (by decide) v hv, hne⟩
  have hport (f : ValueFlag) : ∀ p ∈ (sorted.1.value f).bind Port.ofText?, p.toNat ≠ 0 := by
    intro p hp
    obtain ⟨s, -, hs⟩ := Option.bind_eq_some_iff.1 hp
    exact Port.toNat_ne_zero_of_ofText? hs
  exact {
    quotable := forall_written hname hhome (hvalue .conf (by decide))
      (hvalue .rootDirectory (by decide)) (hvalue .logDirectory (by decide))
      (fun v hv ↦ (hserver hv).toIsQuotable) fun n ↦ (isValue_repr n).toIsQuotable
    server := ⟨fun h ↦ (hserver (Or.inl h)).ne_empty rfl, fun h ↦ (hserver (Or.inr h)).ne_empty rfl⟩
    debugPort := hport .debugPort
    jmxPort := hport .jmxPort
    watchdogPort := hport .watchdogPort
    extra := by
      intro e he
      obtain ⟨hextra, -⟩ := ne_empty_of_ifNonEmpty he
      rw [Arguments.finish] at hextra
      split at hextra
      · cases hextra
      · rename_i hne
        rw [← Option.some.inj hextra]
        exact readableExtra_joined (hline.sublist Arguments.sublist_ofTokens) (by simpa using hne)
          Arguments.flag?_of_mem_ofTokens
          fun t ht ↦ hlast t (Arguments.sublist_ofTokens.subset ht) }

/-! ### One flag of a line -/

/-- A flag with a text occurs once among the flags of a line, with its value right behind it. -/
theorem exists_flagTokens_eq (h : d.Quotable) (hf : f ∈ leadingFlags) (hv : d.written f = some v) :
    ∃ before behind, d.flagTokens =
        before ++ (Flag.value f).token :: ((if v = "" then [] else [valueToken v]) ++ behind) ∧
      Arguments.FlagRow before ∧ Arguments.FlagRow behind ∧
      ∀ t ∈ before ++ behind, t.flag? ≠ some (.value f) := by
  obtain ⟨fs, gs, hsplit⟩ := List.append_of_mem hf
  -- No flag is listed twice, so neither half has this one.
  have hnodup : (fs ++ f :: gs).Nodup := hsplit ▸ by decide
  obtain ⟨-, htail, hdisjoint⟩ := List.nodup_append.1 hnodup
  have hfs : f ∉ fs := fun hmem ↦ hdisjoint f hmem f List.mem_cons_self rfl
  have hgs : f ∉ gs := (List.nodup_cons.1 htail).1
  have hports : f ∉ portFlags := by
    have hleading : ∀ g ∈ leadingFlags, g ∉ portFlags := by decide
    exact hleading f hf
  refine ⟨Flag.service.token :: partTokens (valueParts d.written fs),
    partTokens (valueParts d.written gs) ++ ((if d.isPreview then [Flag.preview.token] else []) ++
      partTokens (valueParts d.written portFlags)), ?_, ?_, ?_, ?_⟩
  · have hmiddle : partTokens (valueParts d.written (fs ++ f :: gs)) =
        partTokens (valueParts d.written fs) ++ ((Flag.value f).token ::
          ((if v = "" then [] else [valueToken v]) ++ partTokens (valueParts d.written gs))) := by
      rw [valueParts, List.flatMap_append, List.flatMap_cons, partTokens_append, partTokens_append,
        hv, partTokens_valuePart (h f v hv), List.cons_append]
      rfl
    rw [flagTokens, hsplit, hmiddle]
    simp only [List.cons_append, List.append_assoc]
  · exact flagRow_service.append (flagRow_valueParts h)
  · exact (flagRow_valueParts h).append ((flagRow_preview _).append (flagRow_valueParts h))
  · intro t ht
    rw [List.cons_append, List.mem_cons, List.mem_append, List.mem_append, List.mem_append] at ht
    rcases ht with rfl | ht | ht | ht | ht
    · simp
    · exact flag?_of_mem_valueParts h hfs t ht
    · exact flag?_of_mem_valueParts h hgs t ht
    · exact flag?_of_mem_preview t ht
    · exact flag?_of_mem_valueParts h hports t ht

/-- A text that is not empty is read back, whatever stands before and behind it. -/
theorem value_of_written (h : d.Quotable) (hf : f ∈ leadingFlags) (hv : d.written f = some v)
    (hne : v ≠ "") {extra : List Token} (hextra : ∀ t ∈ extra, t.flag? = none) :
    (Arguments.ofTokens .empty (d.flagTokens ++ extra)).1.value f = some v := by
  obtain ⟨before, behind, htokens, -, -, hother⟩ := exists_flagTokens_eq h hf hv
  have hbehind : ∀ t ∈ behind ++ extra, t.flag? ≠ some (.value f) := by
    intro t ht
    rcases List.mem_append.1 ht with ht | ht
    · exact hother t (List.mem_append_right _ ht)
    · simp [hextra t ht]
  have hquotable := h f v hv
  rw [htokens, if_neg hne, List.append_assoc, List.cons_append, List.cons_append, List.nil_append,
    Arguments.ofTokens_append (by simp), List.cons_append,
    Arguments.ofTokens_value (Flag.flag?_token _) hquotable.flag?_valueToken,
    Arguments.value_ofTokens_of_forall_ne hbehind, Arguments.value_set_self,
    hquotable.text_valueToken]

/-- A flag with an empty text is read back without a value, or takes the first extra argument. -/
theorem value_of_written_empty (h : d.Quotable) (hf : f ∈ leadingFlags)
    (hv : d.written f = some "") {extra : List Token} (hextra : ∀ t ∈ extra, t.flag? = none) :
    (Arguments.ofTokens .empty (d.flagTokens ++ extra)).1.value f = none ∨
      (Arguments.ofTokens .empty (d.flagTokens ++ extra)).2.length < extra.length := by
  obtain ⟨before, behind, htokens, hbefore, hbehind, hother⟩ := exists_flagTokens_eq h hf hv
  set start := (Arguments.ofTokens .empty before).1 with hstart
  have hunset : start.value f = none := by
    rw [hstart, Arguments.value_ofTokens_of_forall_ne fun t ht ↦
      hother t (List.mem_append_left _ ht)]
    rfl
  have hsorted : Arguments.ofTokens .empty (d.flagTokens ++ extra) =
      Arguments.ofTokens start ((Flag.value f).token :: (behind ++ extra)) := by
    rw [htokens, if_pos rfl, List.nil_append, List.append_assoc, List.cons_append,
      Arguments.ofTokens_append (by simp), hbefore.leaves_none, List.nil_append]
  rw [hsorted]
  -- what stands behind the flag decides: nothing, an extra argument, or another flag
  rcases behind with - | ⟨t, behind⟩
  · rcases extra with - | ⟨e, extra⟩
    · left
      rw [List.append_nil, Arguments.ofTokens_hungry (Flag.flag?_token _) (by simp),
        Arguments.ofTokens_nil]
      exact hunset
    · right
      obtain ⟨he, hextra⟩ := List.forall_mem_cons.1 hextra
      rw [List.nil_append, Arguments.ofTokens_value (Flag.flag?_token _) he,
        Arguments.ofTokens_of_forall_none hextra]
      exact Nat.lt_succ_self _
  · left
    have hrest : ∀ u ∈ t :: behind ++ extra, u.flag? ≠ some (.value f) := by
      intro u hu
      rcases List.mem_append.1 hu with hu | hu
      · exact hother u (List.mem_append_right _ hu)
      · simp [hextra u hu]
    have hstarts : ∀ u ∈ (t :: behind ++ extra).head?, u.flag?.isSome := hbehind.starts
    rw [Arguments.ofTokens_hungry (Flag.flag?_token _) hstarts,
      Arguments.value_ofTokens_of_forall_ne hrest, hunset]

/-! ### Profiles that come back from their own lines -/

/-- Apart from the name and the home, three texts of a profile can be empty in its line. -/
theorem noEmptyText_iff (hname : d.name ≠ "") (hhome : d.home ≠ "") : d.NoEmptyText ↔
    d.confFile ≠ some "" ∧ d.rootDirectory ≠ some "" ∧ d.logDirectory ≠ some "" := by
  have hport (port : Option Port) : Port.text? port ≠ some "" := by
    rcases port with - | p
    · simp [Port.text?]
    · rw [Port.text?]
      split
      · simp
      · simp
  have hserver (value : Option String) : ifNonEmpty value ≠ some "" :=
    fun h ↦ (ne_empty_of_ifNonEmpty h).2 rfl
  refine ⟨fun h ↦ ⟨h .conf, h .rootDirectory, h .logDirectory⟩, ?_⟩
  rintro ⟨hconf, hroot, hlog⟩ f
  cases f with
  | name => simpa [written] using hname
  | home => simpa [written] using hhome
  | conf => exact hconf
  | rootDirectory => exact hroot
  | logDirectory => exact hlog
  | server =>
    rcases hd : d.server with - | id | address <;> simp only [written, hd]
    · simp
    · exact hserver _
    · simp
  | dynamicServer =>
    rcases hd : d.server with - | id | address <;> simp only [written, hd]
    · simp
    · simp
    · exact hserver _
  | debugPort => exact hport _
  | jmxPort => exact hport _
  | watchdogPort => exact hport _
  | exe => simp [written]
  | user => simp [written]
  | javaHome => simp [written]

/-- The extra text of sorted arguments has the tokens that belong to no flag. -/
theorem tokens_extra_finish {args : Arguments} {ts : List Token} (h : IsLine ts) :
    tokens ((ifNonEmpty (Arguments.finish (args, ts)).extra).getD "").toList = ts := by
  rcases hts : ts with - | ⟨t, us⟩
  · rfl
  · rw [← hts]
    have hne : joined ts ≠ "" := by
      intro he
      have htokens := tokens_joined h
      rw [he, hts] at htokens
      cases htokens
    have hextra : (Arguments.finish (args, ts)).extra = some (joined ts) := by
      rw [Arguments.finish, if_neg (by simp [hts])]
    rw [hextra, ifNonEmpty_some hne, Option.getD_some, tokens_joined h]

/-- **A profile that is read back from its line has no empty texts.** A flag with an empty text
would come back unset or take an extra argument away. -/
theorem noEmptyText_of_fixed (h : d.Readable) (hname : d.name ≠ "") (hhome : d.home ≠ "")
    (hfix : ofArguments d.name d.home (Arguments.parse d.argumentLine) = d) : d.NoEmptyText := by
  have hflagless := flag?_of_mem_extra h
  have hsplit := Arguments.parse_eq (leadingExecutable_argumentLine h)
  set sorted := Arguments.ofTokens .empty (d.flagTokens ++ tokens d.extraText.toList) with hsorted
  have hparse : Arguments.parse d.argumentLine = Arguments.finish sorted := hsplit
  rw [hparse] at hfix
  have hextra : tokens d.extraText.toList = sorted.2 := by
    have hline : IsLine sorted.2 := by
      refine IsLine.sublist ?_ Arguments.sublist_ofTokens
      rw [← h.quotable.tokens_argumentLine]
      exact isLine_tokens _
    -- the extra arguments that come back are those that no flag has taken
    rw [extraText, ← congrArg extraArguments hfix]
    exact tokens_extra_finish hline
  have hread {f : ValueFlag} (hf : f ∈ leadingFlags) (hw : d.written f = some "") :
      sorted.1.value f ≠ some "" := by
    rcases value_of_written_empty h.quotable hf hw hflagless with hnone | hlt
    · rw [hsorted, hnone]
      simp
    · rw [← hsorted, ← hextra] at hlt
      exact absurd hlt (Nat.lt_irrefl _)
  refine (noEmptyText_iff hname hhome).2 ⟨fun he ↦ ?_, fun he ↦ ?_, fun he ↦ ?_⟩
  · exact @hread .conf (by decide) he ((congrArg confFile hfix).trans he)
  · exact @hread .rootDirectory (by decide) he ((congrArg rootDirectory hfix).trans he)
  · exact @hread .logDirectory (by decide) he ((congrArg logDirectory hfix).trans he)

/-! ### The length of a line -/

/-- The length of texts with one space behind each. -/
def spread (texts : List (List Char)) : Nat := (texts.map fun cs ↦ cs.length + 1).sum

@[simp] theorem spread_append (texts texts' : List (List Char)) :
    spread (texts ++ texts') = spread texts + spread texts' := by
  simp [spread]

/-- The length of texts with single spaces between them, counted with one space more. -/
theorem length_intercalate {texts : List (List Char)} (h : texts ≠ []) :
    ([' '].intercalate texts).length + 1 = spread texts := by
  induction texts with
  | nil => exact absurd rfl h
  | cons cs texts ih =>
    rcases texts with - | ⟨cs', texts⟩
    · simp [spread]
    · have ih := ih (List.cons_ne_nil _ _)
      rw [spread, List.map_cons, List.sum_cons, ← spread, ← ih, List.intercalate_cons_cons,
        List.length_append, List.length_append, List.length_singleton]
      omega

/-- A part that has no other spaces between its tokens is as long as they are, if it is not
empty. -/
theorem spread_tokens {p : String} (h : joined (tokens p.toList) = p) :
    p.toList.length + 1 =
      spread ((tokens p.toList).map Token.raw) + if p = "" then 1 else 0 := by
  by_cases hp : p = ""
  · subst hp
    rfl
  · have hne : (tokens p.toList).map Token.raw ≠ [] := by
      intro hnil
      rw [List.map_eq_nil_iff.1 hnil] at h
      exact hp h.symm
    rw [if_neg hp, ← length_intercalate hne, ← toList_joined, h, Nat.add_zero]

/-- Parts are longer than their tokens by one for each part that is empty. -/
theorem spread_partTokens {parts : List String} (h : ∀ p ∈ parts, joined (tokens p.toList) = p) :
    spread (parts.map String.toList) =
      spread ((partTokens parts).map Token.raw) + parts.count "" := by
  induction parts with
  | nil => rfl
  | cons p parts ih =>
    obtain ⟨hp, hparts⟩ := List.forall_mem_cons.1 h
    have hcons : spread ((p :: parts).map String.toList) =
        (p.toList.length + 1) + spread (parts.map String.toList) := by
      rw [spread, List.map_cons, List.map_cons, List.sum_cons]
      rfl
    rw [hcons, spread_tokens hp, ih hparts, partTokens_cons, List.map_append, spread_append,
      List.count_cons]
    simp only [beq_iff_eq]
    omega

/-- A part of the line is its tokens with single spaces between them. -/
theorem joined_tokens_of_mem_argumentParts (h : d.Readable) :
    ∀ p ∈ d.argumentParts, joined (tokens p.toList) = p := by
  have hone (p : String) : joined [.ofRaw p.toList] = p := by
    simp [joined, Token.ofRaw]
  have hflags : ∀ p ∈ d.flagParts, joined (tokens p.toList) = p := by
    refine forall_mem_flagParts (fun f ↦ ?_) (fun f v hv ↦ ?_)
    · rw [tokens_flagText]
      exact hone f.text
    · rw [(h.quotable f v hv).tokens_asOneToken]
      split
      · rename_i hempty
        rw [hempty]
        rfl
      · exact hone (asOneToken v)
  intro p hp
  rw [argumentParts_eq, List.mem_append] at hp
  rcases hp with hp | hp
  · exact hflags p hp
  · obtain ⟨hextra, -⟩ := ne_empty_of_ifNonEmpty (Option.mem_toList.1 hp)
    exact (h.extra p hextra).joined

/-- **The length of a line counts its empty texts**: it is that of the tokens with single spaces
between them, and one more for each empty text. -/
theorem length_argumentLine (h : d.Readable) :
    d.argumentLine.toList.length + 1 =
      spread ((tokens d.argumentLine.toList).map Token.raw) + d.argumentParts.count "" := by
  have hne : d.argumentParts.map String.toList ≠ [] := by
    simp [argumentParts_eq, flagParts]
  have hlength : d.argumentLine.toList.length + 1 = spread (d.argumentParts.map String.toList) := by
    rw [← length_intercalate hne, argumentLine, String.toList_intercalate]
    rfl
  rw [hlength, spread_partTokens (joined_tokens_of_mem_argumentParts h),
    h.quotable.tokens_argumentLine_eq_partTokens]

/-- Nothing is written only for an empty text. -/
theorem asOneToken_eq_empty_iff : asOneToken v = "" ↔ v = "" := by
  constructor
  · intro h
    rw [asOneToken] at h
    split at h
    · simp at h
    · exact h
  · rintro rfl
    rfl

/-- The parts of a line that are empty are its empty texts. -/
theorem count_argumentParts_eq_zero_iff : d.argumentParts.count "" = 0 ↔ d.NoEmptyText := by
  -- An empty part comes only from an empty value, since no flag is empty and no value is quoted
  -- to nothing.
  have hparts : (∀ p ∈ d.flagParts, p ≠ "") ↔ d.NoEmptyText := by
    constructor
    · intro h f hf
      have hpart : "" ∈ valuePart f (d.written f) := by
        rw [hf]
        exact List.mem_cons_of_mem _ List.mem_cons_self
      have hwhere : f ∈ leadingFlags ∨ f ∈ portFlags := by
        cases f <;> first | exact Or.inl (by decide) | exact Or.inr (by decide) | cases hf
      refine h "" ?_ rfl
      rw [flagParts, List.mem_cons, List.mem_append, List.mem_append]
      rcases hwhere with hf | hf
      · exact Or.inr (Or.inl (List.mem_flatMap.2 ⟨f, hf, hpart⟩))
      · exact Or.inr (Or.inr (Or.inr (List.mem_flatMap.2 ⟨f, hf, hpart⟩)))
    · intro h
      refine forall_mem_flagParts (fun f hf ↦ ?_) (fun f v hv hempty ↦ ?_)
      · have hhead := f.head?_text
        rw [hf] at hhead
        cases hhead
      · rw [asOneToken_eq_empty_iff.1 hempty] at hv
        exact h f hv
  rw [← hparts, List.count_eq_zero, argumentParts_eq, List.mem_append]
  constructor
  · rintro h p hp rfl
    exact h (Or.inl hp)
  · rintro h (hempty | hempty)
    · exact h "" hempty rfl
    · exact (ne_empty_of_ifNonEmpty (Option.mem_toList.1 hempty)).2 rfl

/-! ### The second reading -/

/-- **A second reading writes the same line exactly if the first one found no empty text.** From any
line a profile is made, written and read again. The name and the home come back; and what is made of
the second reading is written as the first line if and only if neither the configuration file nor
one of the directories was given as an empty text. -/
theorem argumentLine_reformat_iff (line : String) {name home : String} (hname : IsValue name)
    (hhome : IsValue home) :
    let d := ofArguments name home (Arguments.parse line)
    let args := Arguments.parse d.argumentLine
    args.value .name = some name ∧ args.value .home = some home ∧
      ((ofArguments ((args.value .name).getD "") ((args.value .home).getD "") args).argumentLine =
          d.argumentLine ↔
        d.confFile ≠ some "" ∧ d.rootDirectory ≠ some "" ∧ d.logDirectory ≠ some "") := by
  intro d args
  have hd : d.Readable := readable_ofArguments line hname.toIsQuotable hhome.toIsQuotable
  have hparse : args = Arguments.finish
      (Arguments.ofTokens .empty (d.flagTokens ++ tokens d.extraText.toList)) :=
    Arguments.parse_eq (leadingExecutable_argumentLine hd)
  have hextra := flag?_of_mem_extra hd
  have hreadName : args.value .name = some name := by
    rw [hparse, Arguments.value_finish]
    exact value_of_written hd.quotable (by decide) rfl hname.ne_empty hextra
  have hreadHome : args.value .home = some home := by
    rw [hparse, Arguments.value_finish]
    exact value_of_written hd.quotable (by decide) rfl hhome.ne_empty hextra
  refine ⟨hreadName, hreadHome, ?_⟩
  rw [hreadName, hreadHome, Option.getD_some, Option.getD_some]
  have hempty : d.NoEmptyText ↔
      d.confFile ≠ some "" ∧ d.rootDirectory ≠ some "" ∧ d.logDirectory ≠ some "" :=
    noEmptyText_iff hname.ne_empty hhome.ne_empty
  rw [← hempty]
  constructor
  · -- the profile of the second reading comes back from its line, which shows its empty texts
    intro hline
    set d' := ofArguments name home args with hd'
    have hreadable : d'.Readable :=
      readable_ofArguments d.argumentLine hname.toIsQuotable hhome.toIsQuotable
    have hfix : ofArguments d'.name d'.home (Arguments.parse d'.argumentLine) = d' := by
      rw [hline]
      rfl
    have hzero := count_argumentParts_eq_zero_iff.2
      (noEmptyText_of_fixed hreadable hname.ne_empty hhome.ne_empty hfix)
    have hlength := length_argumentLine hreadable
    rw [hline, length_argumentLine hd, hzero] at hlength
    exact count_argumentParts_eq_zero_iff.1 (by omega)
  · intro hnone
    have hback : ofArguments name home args = d.recorded := ofArguments_parse_of_readable hd hnone
    rw [hback, argumentLine_recorded]

/-- A line with a quote that is never closed, a flag without a value and a flag given twice. -/
theorem reformat_unclosed_quote :
    IsValue "web" ∧ IsValue "C:\\r" ∧
      let d := ofArguments "web" "C:\\r"
        (Arguments.parse "resin.exe -service -conf -server a --server b\"c -J\"x  y")
      let args := Arguments.parse d.argumentLine
      (ofArguments ((args.value .name).getD "") ((args.value .home).getD "") args).argumentLine =
        d.argumentLine :=
  ⟨by decide, by decide,
    (argumentLine_reformat_iff _ (by decide) (by decide)).2.2.2 (by decide +kernel)⟩

/-- A log directory that is given as `""` is written as nothing, and the second reading takes the
extra argument behind it for the directory. -/
theorem reformat_empty_logDirectory :
    IsValue "n" ∧ IsValue "h" ∧
      let d := ofArguments "n" "h" (Arguments.parse "resin.exe -service -log-directory \"\" -Xmx1g")
      let args := Arguments.parse d.argumentLine
      let again := ofArguments ((args.value .name).getD "") ((args.value .home).getD "") args
      d.extraArguments = some "-Xmx1g" ∧ again.logDirectory = some "-Xmx1g" ∧
        again.argumentLine ≠ d.argumentLine := by
  decide +kernel

end ServiceProfile

end ServerSetup
