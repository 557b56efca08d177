import Mathlib.Logic.Function.Basic
import ServerSetup.Profile
import ServerSetup.Proofs.CommandLine.Sorting

/-!
# The tokens of an argument line

An argument line is a row of flags with their values, with the preview switch among them and the
extra arguments behind. `ServiceProfile.written` reads this row as a function: the text that the
line gives to each flag. In these terms the line is uniform (`argumentParts_eq`), and so are its
tokens and what sorting makes of them (`ofTokens_valueParts`).

The fields of a profile are of different kinds. Some texts are always written and some only if they
are set, ports are left out if they are zero, and the two flags of the server exclude each other.
All of this is in the definition of `written`; behind it there is one rule for a flag and its text
(`valuePart`), and lists of flags in the order of the line. So a fact about the line is proved by an
induction on a list of flags instead of once for each field, and `forall_written` is the one place
where the fields are gone through.

A text is enclosed in quotes if it has blanks. The tokens of the line are those of its parts as long
as no part leaves a quote open (`closesQuotes_flagParts`), since a quote that is open takes the next
blank into the token. The extra arguments are the last part, and the only one that may leave a quote
open.
-/

namespace ServerSetup

open CommandLine Text

/-- The text of a port in an argument line. A port that is zero is not written. -/
def Port.text? : Option Port → Option String
  | none => none
  | some p => if p.toNat = 0 then none else some p.toNat.repr

namespace ServiceProfile

variable {d : ServiceProfile}

/-! ### The texts of the line -/

@[simp] theorem ifNonEmpty_none : ifNonEmpty none = none := rfl

theorem ifNonEmpty_some {v : String} (h : v ≠ "") : ifNonEmpty (some v) = some v := by
  rw [ifNonEmpty, Option.filter_some, if_pos (by simpa using h)]

theorem ne_empty_of_ifNonEmpty {value : Option String} {v : String}
    (h : ifNonEmpty value = some v) : value = some v ∧ v ≠ "" := by
  obtain ⟨hvalue, hv⟩ := Option.filter_eq_some_iff.1 h
  exact ⟨hvalue, by simpa using hv⟩

/-- The text that the argument line of a profile gives to a flag. -/
def written (d : ServiceProfile) : ValueFlag → Option String
  | .name => some d.name
  | .conf => d.confFile
  | .home => some d.home
  | .rootDirectory => d.rootDirectory
  | .logDirectory => d.logDirectory
  | .server => match d.server with
    | .fixed id => ifNonEmpty (some id)
    | _ => none
  | .dynamicServer => match d.server with
    | .dynamic address => ifNonEmpty (some address)
    | _ => none
  | .debugPort => Port.text? d.debugPort
  | .jmxPort => Port.text? d.jmxPort
  | .watchdogPort => Port.text? d.watchdogPort
  | .exe | .user | .javaHome => none

/-- What holds of the texts of a profile and of numbers holds of every text in its line. -/
theorem forall_written {P : String → Prop} (hname : P d.name) (hhome : P d.home)
    (hconf : ∀ v ∈ d.confFile, P v) (hroot : ∀ v ∈ d.rootDirectory, P v)
    (hlog : ∀ v ∈ d.logDirectory, P v)
    (hserver : ∀ v, d.server = .fixed v ∨ d.server = .dynamic v → P v)
    (hnumber : ∀ n : Nat, P n.repr) : ∀ f, ∀ v ∈ d.written f, P v := by
  have hport (port : Option Port) : ∀ v ∈ Port.text? port, P v := by
    intro v hv
    rcases port with - | p
    · cases hv
    · rw [Port.text?] at hv
      split at hv
      · cases hv
      · exact Option.some.inj hv ▸ hnumber _
  intro f v hv
  cases f with
  | name => exact Option.some.inj hv ▸ hname
  | home => exact Option.some.inj hv ▸ hhome
  | conf => exact hconf v hv
  | rootDirectory => exact hroot v hv
  | logDirectory => exact hlog v hv
  | server =>
    rcases hd : d.server with - | id | address <;> simp only [written, hd] at hv
    · cases hv
    · exact hserver v (Or.inl (by rw [hd, Option.some.inj (ne_empty_of_ifNonEmpty hv).1]))
    · cases hv
  | dynamicServer =>
    rcases hd : d.server with - | id | address <;> simp only [written, hd] at hv
    · cases hv
    · cases hv
    · exact hserver v (Or.inr (by rw [hd, Option.some.inj (ne_empty_of_ifNonEmpty hv).1]))
  | debugPort => exact hport _ v hv
  | jmxPort => exact hport _ v hv
  | watchdogPort => exact hport _ v hv
  | exe => cases hv
  | user => cases hv
  | javaHome => cases hv

/-- The flags that stand before the preview switch, in their order. -/
def leadingFlags : List ValueFlag :=
  [.name, .conf, .home, .rootDirectory, .logDirectory, .server, .dynamicServer]

/-- The flags that stand behind the preview switch, in their order. -/
def portFlags : List ValueFlag := [.debugPort, .jmxPort, .watchdogPort]

/-- Flags with the texts that `w` gives them. -/
def valueParts (w : ValueFlag → Option String) (fs : List ValueFlag) : List String :=
  fs.flatMap fun f ↦ valuePart f (w f)

theorem valueParts_cons (w : ValueFlag → Option String) (f : ValueFlag) (fs : List ValueFlag) :
    valueParts w (f :: fs) = valuePart f (w f) ++ valueParts w fs := rfl

theorem valueParts_append (w : ValueFlag → Option String) (fs gs : List ValueFlag) :
    valueParts w (fs ++ gs) = valueParts w fs ++ valueParts w gs := List.flatMap_append

/-- The texts of a list of flags do not depend on that of another flag. -/
theorem valueParts_update {w : ValueFlag → Option String} {f : ValueFlag} {fs : List ValueFlag}
    (h : f ∉ fs) (value : Option String) :
    valueParts (Function.update w f value) fs = valueParts w fs := by
  refine List.flatMap_congr fun g hg ↦ ?_
  rw [Function.update_of_ne]
  rintro rfl
  exact h hg

/-! ### Numbers as values -/

/-- The digits of a number can stand behind a flag. -/
theorem isValue_repr (n : Nat) : IsValue n.repr where
  no_quote h := absurd (isDigit_of_mem_repr _ h) (by decide)
  not_flag := by
    -- a flag starts with a dash, and a number has none
    have hdash : '-' ∉ n.repr.toList := fun h ↦ absurd (isDigit_of_mem_repr _ h) (by decide)
    rintro ⟨f, h | h⟩
    · exact hdash (h ▸ List.mem_of_head? f.head?_text)
    · exact hdash (h ▸ by simp)
  ne_empty := Nat.repr_ne_empty

theorem asOneToken_repr (n : Nat) : asOneToken n.repr = n.repr := by
  rw [asOneToken, if_neg]
  have hblank : n.repr.toList.any isBlank = false :=
    List.any_eq_false.2 fun c hc ↦ by simp [isBlank_of_isDigit (isDigit_of_mem_repr c hc)]
  rw [hblank, Bool.false_and]
  decide

/-! ### The parts of the line -/

/-- A port is written as the value of its flag, if it is not zero. -/
theorem portPart_eq (f : ValueFlag) (port : Option Port) :
    portPart f port = valuePart f (Port.text? port) := by
  rcases port with - | p
  · rfl
  · simp only [portPart, Port.text?]
    split
    · rfl
    · rw [valuePart, asOneToken_repr]

/-- At most one of the two flags of a server is written. -/
theorem serverPart_eq (d : ServiceProfile) :
    serverPart d.server =
      valuePart .server (d.written .server) ++
        valuePart .dynamicServer (d.written .dynamicServer) := by
  unfold written
  cases d.server with
  | unspecified => rfl
  | fixed id => simp [serverPart, valuePart]
  | dynamic address => simp [serverPart, valuePart]

/-- The parts of the line before the extra arguments. -/
def flagParts (d : ServiceProfile) : List String :=
  Flag.service.text :: (valueParts d.written leadingFlags ++
    ((if d.isPreview then [Flag.preview.text] else []) ++ valueParts d.written portFlags))

/-- **A line is the service switch, flags with values around the preview switch, and the extra
arguments.** -/
theorem argumentParts_eq (d : ServiceProfile) :
    d.argumentParts = d.flagParts ++ (ifNonEmpty d.extraArguments).toList := by
  simp only [argumentParts, flagParts, valueParts, leadingFlags, portFlags, List.flatMap_cons,
    List.flatMap_nil, serverPart_eq, portPart_eq]
  simp [written]

/-! ### The tokens of the parts -/

/-- The tokens of parts that stand one behind the other. -/
def partTokens (parts : List String) : List Token := parts.flatMap fun p ↦ tokens p.toList

@[simp] theorem partTokens_nil : partTokens [] = [] := rfl

@[simp] theorem partTokens_cons (p : String) (ps : List String) :
    partTokens (p :: ps) = tokens p.toList ++ partTokens ps := rfl

@[simp] theorem partTokens_append (ps qs : List String) :
    partTokens (ps ++ qs) = partTokens ps ++ partTokens qs := List.flatMap_append

@[simp] theorem tokens_flagText (f : Flag) : tokens f.text.toList = [f.token] :=
  f.wellFormed_token.tokens_raw

/-- A flag and its text are two tokens, or one if the text is empty. -/
theorem partTokens_valuePart {f : ValueFlag} {v : String} (h : IsQuotable v) :
    partTokens (valuePart f (some v)) =
      (Flag.value f).token :: if v = "" then [] else [valueToken v] := by
  have hflag : tokens f.text.toList = [(Flag.value f).token] := tokens_flagText (.value f)
  simp [valuePart, hflag, h.tokens_asOneToken]

/-- What holds of the flags and of the written values holds of the parts that they make. -/
theorem forall_mem_valueParts {P : String → Prop} {w : ValueFlag → Option String}
    {fs : List ValueFlag} (hflag : ∀ f : Flag, P f.text)
    (hvalue : ∀ f, ∀ v ∈ w f, P (asOneToken v)) : ∀ p ∈ valueParts w fs, P p := by
  intro p hp
  obtain ⟨f, -, hp⟩ := List.mem_flatMap.1 hp
  rcases hw : w f with - | v
  · rw [hw] at hp
    cases hp
  · rw [hw, valuePart, List.mem_cons, List.mem_singleton] at hp
    rcases hp with rfl | rfl
    · exact hflag (.value f)
    · exact hvalue f v hw

/-- What holds of the flags and of the texts behind them holds of every part of the line. -/
theorem forall_mem_flagParts {P : String → Prop} (hflag : ∀ f : Flag, P f.text)
    (hvalue : ∀ f, ∀ v ∈ d.written f, P (asOneToken v)) : ∀ p ∈ d.flagParts, P p := by
  intro p hp
  rw [flagParts, List.mem_cons, List.mem_append, List.mem_append] at hp
  rcases hp with rfl | hp | hp | hp
  · exact hflag .service
  · exact forall_mem_valueParts hflag hvalue p hp
  · split at hp
    · rw [List.mem_singleton.1 hp]
      exact hflag .preview
    · cases hp
  · exact forall_mem_valueParts hflag hvalue p hp

/-- The texts behind the flags of a profile can stand in quotes and are no flags. -/
def Quotable (d : ServiceProfile) : Prop := ∀ f, ∀ v ∈ d.written f, IsQuotable v

/-- The tokens of the line before the extra arguments. -/
def flagTokens (d : ServiceProfile) : List Token :=
  Flag.service.token :: (partTokens (valueParts d.written leadingFlags) ++
    ((if d.isPreview then [Flag.preview.token] else []) ++
      partTokens (valueParts d.written portFlags)))

/-- The extra arguments as they stand in the line. -/
def extraText (d : ServiceProfile) : String := d.extraArguments.getD ""

theorem Quotable.closesQuotes_flagParts (h : d.Quotable) :
    ∀ p ∈ d.flagParts, ClosesQuotes p.toList :=
  forall_mem_flagParts (fun f ↦ closesQuotes_of_not_mem f.quote_not_mem_text)
    fun f v hv ↦ (h f v hv).closesQuotes_asOneToken

/-- The tokens of the flags and their texts, in the order in which they are written. -/
theorem partTokens_flagParts (d : ServiceProfile) : partTokens d.flagParts = d.flagTokens := by
  rw [flagParts, flagTokens, partTokens_cons, tokens_flagText, partTokens_append, partTokens_append]
  cases d.isPreview
  · rfl
  · simp

theorem partTokens_extra (d : ServiceProfile) :
    partTokens (ifNonEmpty d.extraArguments).toList = tokens d.extraText.toList := by
  rw [extraText]
  rcases d.extraArguments with - | e
  · rfl
  · by_cases he : e = ""
    · subst he
      rfl
    · rw [ifNonEmpty_some he]
      simp

/-- Only the extra arguments may leave a quote open, since nothing stands behind them. -/
theorem tokens_argumentLine_eq_partTokens (h : ∀ p ∈ d.flagParts, ClosesQuotes p.toList) :
    tokens d.argumentLine.toList = partTokens d.argumentParts := by
  have hpairwise : (d.argumentParts.map String.toList).Pairwise fun p _ ↦ ClosesQuotes p := by
    rw [List.pairwise_map, argumentParts_eq, List.pairwise_append]
    refine ⟨?_, ?_, fun p hp _ _ ↦ h p hp⟩
    · exact List.Pairwise.imp_of_mem (fun hp _ _ ↦ h _ hp)
        (List.pairwise_of_forall fun _ _ ↦ trivial)
    · rcases ifNonEmpty d.extraArguments with - | e
      · exact List.Pairwise.nil
      · exact List.pairwise_singleton _ _
  rw [argumentLine, String.toList_intercalate]
  show tokens ([' '].intercalate _) = _
  rw [tokens_intercalate hpairwise, partTokens, List.flatMap_map]

theorem Quotable.tokens_argumentLine_eq_partTokens (h : d.Quotable) :
    tokens d.argumentLine.toList = partTokens d.argumentParts :=
  ServiceProfile.tokens_argumentLine_eq_partTokens h.closesQuotes_flagParts

/-- If no part leaves a quote open, the tokens of the extra arguments follow those of the flags. -/
theorem tokens_argumentLine_of_closesQuotes (h : ∀ p ∈ d.flagParts, ClosesQuotes p.toList) :
    tokens d.argumentLine.toList = d.flagTokens ++ tokens d.extraText.toList := by
  rw [tokens_argumentLine_eq_partTokens h, argumentParts_eq, partTokens_append,
    partTokens_flagParts, partTokens_extra]

/-- **The tokens of a line are those of its flags and then those of its extra arguments.** -/
theorem Quotable.tokens_argumentLine (h : d.Quotable) :
    tokens d.argumentLine.toList = d.flagTokens ++ tokens d.extraText.toList :=
  tokens_argumentLine_of_closesQuotes h.closesQuotes_flagParts

/-! ### Rows of flags -/

/-- A flag with a text that can stand in quotes is a row of flags. -/
theorem flagRow_valuePart {f : ValueFlag} {value : Option String} (h : ∀ v ∈ value, IsQuotable v) :
    Arguments.FlagRow (partTokens (valuePart f value)) := by
  rcases value with - | v
  · exact Arguments.FlagRow.nil
  · have hv := h v rfl
    rw [partTokens_valuePart hv]
    refine ⟨by simp, fun args ↦ ?_⟩
    split
    · rw [Arguments.ofTokens_hungry (Flag.flag?_token _) (by simp), Arguments.ofTokens_nil]
    · rw [Arguments.ofTokens_value (Flag.flag?_token _) hv.flag?_valueToken,
        Arguments.ofTokens_nil]

theorem flagRow_valueParts {w : ValueFlag → Option String} {fs : List ValueFlag}
    (h : ∀ f, ∀ v ∈ w f, IsQuotable v) : Arguments.FlagRow (partTokens (valueParts w fs)) := by
  induction fs with
  | nil => exact Arguments.FlagRow.nil
  | cons f fs ih =>
    rw [valueParts, List.flatMap_cons, partTokens_append]
    exact (flagRow_valuePart (h f)).append ih

theorem flagRow_preview (b : Bool) :
    Arguments.FlagRow (if b then [Flag.preview.token] else []) := by
  cases b
  · exact Arguments.FlagRow.nil
  · exact ⟨by simp, fun args ↦ by simp [Arguments.ofTokens_preview (Flag.flag?_token .preview)]⟩

theorem flagRow_service : Arguments.FlagRow [Flag.service.token] :=
  ⟨by simp, fun args ↦ by simp [Arguments.ofTokens_service (Flag.flag?_token .service)]⟩

/-- Only the flags of a list stand in the parts that it makes. -/
theorem flag?_of_mem_valueParts {w : ValueFlag → Option String} {fs : List ValueFlag}
    (h : ∀ f, ∀ v ∈ w f, IsQuotable v) {f : ValueFlag} (hf : f ∉ fs) :
    ∀ t ∈ partTokens (valueParts w fs), t.flag? ≠ some (.value f) := by
  induction fs with
  | nil => simp [valueParts]
  | cons g fs ih =>
    obtain ⟨hg, hfs⟩ := not_or.1 (List.mem_cons.not.1 hf)
    intro t ht
    rw [valueParts, List.flatMap_cons, partTokens_append, List.mem_append] at ht
    rcases ht with ht | ht
    · rcases hw : w g with - | v
      · rw [hw] at ht
        cases ht
      · have hv := h g v hw
        rw [hw, partTokens_valuePart hv, List.mem_cons] at ht
        rcases ht with rfl | ht
        · rw [Flag.flag?_token]
          intro he
          exact hg (Flag.value.inj (Option.some.inj he)).symm
        · split at ht
          · cases ht
          · rw [List.mem_singleton.1 ht, hv.flag?_valueToken]
            exact (Option.some_ne_none _).symm
    · exact ih hfs t ht

theorem flag?_of_mem_preview {b : Bool} {f : ValueFlag} :
    ∀ t ∈ (if b then [Flag.preview.token] else []), t.flag? ≠ some (.value f) := by
  intro t ht
  split at ht
  · rw [List.mem_singleton.1 ht, Flag.flag?_token]
    simp
  · cases ht

/-- A flag to which the line gives no text does not stand in it. -/
theorem flag?_of_mem_flagTokens (h : d.Quotable) {f : ValueFlag} (hleading : f ∉ leadingFlags)
    (hports : f ∉ portFlags) : ∀ t ∈ d.flagTokens, t.flag? ≠ some (.value f) := by
  intro t ht
  rw [flagTokens, List.mem_cons, List.mem_append, List.mem_append] at ht
  rcases ht with rfl | ht | ht | ht
  · simp
  · exact flag?_of_mem_valueParts h hleading t ht
  · exact flag?_of_mem_preview t ht
  · exact flag?_of_mem_valueParts h hports t ht

/-! ### Sorting the line -/

/-- Arguments in which the flags of a list have the values that `w` gives them. -/
def withValues (args : Arguments) (w : ValueFlag → Option String) (fs : List ValueFlag) :
    Arguments :=
  { args with value := fun f ↦ if f ∈ fs then (w f).or (args.value f) else args.value f }

theorem withValues_cons_none {args : Arguments} {w : ValueFlag → Option String} {f : ValueFlag}
    {fs : List ValueFlag} (h : w f = none) :
    withValues args w (f :: fs) = withValues args w fs := by
  simp only [withValues, Arguments.mk.injEq, true_and, and_true]
  funext g
  by_cases hg : g = f
  · subst hg
    simp [h]
  · simp [hg]

/-- A flag with a text sets its value. -/
theorem withValues_cons_some {args : Arguments} {w : ValueFlag → Option String} {f : ValueFlag}
    {fs : List ValueFlag} {v : String} (h : w f = some v) :
    withValues args w (f :: fs) = withValues (args.set f v) w fs := by
  simp only [withValues, Arguments.set, Arguments.mk.injEq, true_and, and_true]
  funext g
  by_cases hg : g = f
  · subst hg
    simp [h]
  · simp [hg]

/-- **Flags with values that can be written are read back with these values.** -/
theorem ofTokens_valueParts {w : ValueFlag → Option String} {fs : List ValueFlag}
    {args : Arguments} {rest : List Token} (h : ∀ f ∈ fs, ∀ v ∈ w f, IsValue v) :
    Arguments.ofTokens args (partTokens (valueParts w fs) ++ rest) =
      Arguments.ofTokens (withValues args w fs) rest := by
  induction fs generalizing args with
  | nil => simp [valueParts, withValues]
  | cons f fs ih =>
    have ih' {args : Arguments} := @ih args fun g hg ↦ h g (List.mem_cons_of_mem _ hg)
    rw [valueParts, List.flatMap_cons, partTokens_append, List.append_assoc]
    rcases hw : w f with - | v
    · rw [withValues_cons_none hw]
      exact ih'
    · have hv : IsValue v := h f List.mem_cons_self v hw
      rw [withValues_cons_some hw, partTokens_valuePart hv.toIsQuotable, if_neg hv.ne_empty,
        List.cons_append, List.cons_append, List.nil_append,
        Arguments.ofTokens_value (Flag.flag?_token _) hv.flag?_valueToken, hv.text_valueToken]
      exact ih'

/-- Arguments to which the line of a profile is added, apart from its extra arguments. -/
def writtenOver (d : ServiceProfile) (args : Arguments) : Arguments :=
  ⟨true, args.preview || d.isPreview, fun f ↦ (d.written f).or (args.value f), args.extra⟩

/-- **The flags of a line are read back**, whatever was read before them. -/
theorem ofTokens_flagTokens {args : Arguments} {rest : List Token}
    (h : ∀ f, ∀ v ∈ d.written f, IsValue v) :
    Arguments.ofTokens args (d.flagTokens ++ rest) =
      Arguments.ofTokens (d.writtenOver args) rest := by
  have hpreview (args : Arguments) (rest : List Token) : Arguments.ofTokens args
      ((if d.isPreview then [Flag.preview.token] else []) ++ rest) =
      Arguments.ofTokens { args with preview := args.preview || d.isPreview } rest := by
    cases d.isPreview
    · simp
    · rw [if_pos rfl, List.singleton_append, Arguments.ofTokens_preview (Flag.flag?_token _),
        Bool.or_true]
  rw [flagTokens, List.cons_append, Arguments.ofTokens_service (Flag.flag?_token _),
    List.append_assoc, List.append_assoc, ofTokens_valueParts fun f _ ↦ h f, hpreview,
    ofTokens_valueParts fun f _ ↦ h f]
  congr 1
  simp only [withValues, writtenOver, Arguments.mk.injEq, true_and, and_true]
  funext f
  cases f <;> simp [leadingFlags, portFlags, written]

/-! ### Reading the line -/

/-- The line starts with the dash of its first flag. -/
theorem head?_argumentLine (d : ServiceProfile) : d.argumentLine.toList.head? = some '-' := by
  rw [argumentLine, argumentParts_eq, flagParts, List.cons_append, String.toList_intercalate,
    List.map_cons]
  rcases List.map String.toList _ with - | ⟨p, ps⟩
  · rw [List.intercalate_singleton]
    exact Flag.service.head?_text
  · rw [List.intercalate_cons_cons, List.append_assoc, List.head?_append, Flag.service.head?_text]
    rfl

end ServiceProfile

end ServerSetup
