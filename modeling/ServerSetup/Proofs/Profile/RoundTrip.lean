import ServerSetup.Proofs.CommandLine.Executable
import ServerSetup.Proofs.Profile.ArgumentLine

/-!
# Profiles read back from their argument lines

A line keeps of a profile everything but the executable, the account and the Java home
(`ServiceProfile.recorded`). The main result says that reading the line of a profile gives exactly
this back (`ofArguments_parse_of_readable`), and rests on two conditions. The profile is *readable*:
its texts can stand in quotes, its extra arguments are tokens with single spaces between them, and
nothing in it is set to a value that the line does not show. And none of its texts is empty, since
an empty text leaves its flag without a value.

`ServiceProfile.Writable` spells both conditions out field by field.

The way back goes through three steps, and each has its own lemmas. The line is split into tokens,
which are the tokens of its parts. The tokens are sorted into a value for each flag and the extra
arguments (`parse_argumentLine`). And the fields are made of the values: a port is read from its
digits (`ofText?_repr`), the server from whichever of its two flags has a value
(`serverOf_of_readable`), and the extra arguments are joined by spaces, which is why they have to
stand with single spaces in the profile.
-/

namespace ServerSetup

open CommandLine Text

/-! ### Ports -/

namespace Port

/-- A port is read back from its digits. -/
theorem ofText?_repr {p : Port} (h : p.toNat ≠ 0) : ofText? p.toNat.repr = some p := by
  have hle : p.toNat ≤ 65535 := Nat.le_of_lt_succ p.toNat_lt
  rw [ofText?, trim_repr, boundedUnsigned?_repr hle, Option.filter_some,
    if_pos (by simpa using Nat.pos_of_ne_zero h), Option.map_some, UInt16.ofNat_toNat]

/-- A port is read back from its text in the line, if it is not zero. -/
theorem bind_ofText?_text? {port : Option Port} (h : ∀ p ∈ port, p.toNat ≠ 0) :
    (text? port).bind ofText? = port := by
  rcases port with - | p
  · rfl
  · rw [text?, if_neg (h p rfl), Option.bind_some, ofText?_repr (h p rfl)]

theorem toNat_ne_zero_of_pos {p : Port} (h : 0 < p) : p.toNat ≠ 0 :=
  (UInt16.lt_iff_toNat_lt.1 h).ne'

/-- A port that was read is not zero. -/
theorem toNat_ne_zero_of_ofText? {s : String} {p : Port} (h : ofText? s = some p) :
    p.toNat ≠ 0 := by
  obtain ⟨n, hn, rfl⟩ := Option.map_eq_some_iff.1 h
  obtain ⟨hbound, hpos⟩ := Option.filter_eq_some_iff.1 hn
  have hle : n ≤ 65535 := by simpa using (Option.filter_eq_some_iff.1 hbound).2
  have hpos' : 0 < n := by simpa using hpos
  rw [UInt16.toNat_ofNat', Nat.mod_eq_of_lt (by omega)]
  omega

end Port

/-! ### Extra arguments -/

/-- Extra arguments as a line shows them: tokens with single spaces between them, none of them a
flag. The last may leave a quote open, but then it does not end in a blank character. -/
structure ReadableExtra (e : String) : Prop where
  ne_empty : e ≠ ""
  joined : joined (tokens e.toList) = e
  not_flag : ∀ t ∈ tokens e.toList, ¬ SpellsFlag t.text
  closed : ClosesQuotes e.toList ∨ ∀ c ∈ e.toList.getLast?, isBlank c = false

/-- Extra arguments have at least one token. -/
theorem ReadableExtra.tokens_ne_nil {e : String} (h : ReadableExtra e) : tokens e.toList ≠ [] := by
  intro hnil
  have hjoined := h.joined
  rw [hnil] at hjoined
  exact h.ne_empty hjoined.symm

namespace ServiceProfile

variable {d : ServiceProfile}

/-- What an argument line keeps of a profile. -/
def recorded (d : ServiceProfile) : ServiceProfile :=
  { d with executable := none, runAsUser := none, javaHome := none, password := none }

@[simp] theorem argumentLine_recorded (d : ServiceProfile) :
    d.recorded.argumentLine = d.argumentLine := rfl

/-- The texts of a profile that stand behind flags are values. -/
structure WritableTexts (d : ServiceProfile) : Prop where
  name : IsValue d.name
  home : IsValue d.home
  confFile : ∀ v ∈ d.confFile, IsValue v
  rootDirectory : ∀ v ∈ d.rootDirectory, IsValue v
  logDirectory : ∀ v ∈ d.logDirectory, IsValue v
  /-- The id or the address of the server. -/
  server : ∀ v, d.server = .fixed v ∨ d.server = .dynamic v → IsValue v

/-- A profile that is written with nothing left out: its texts are values, its ports are not zero,
and its extra arguments close their quotes, have single spaces between them and are no flags. -/
structure Writable (d : ServiceProfile) : Prop extends WritableTexts d where
  debugPort : ∀ p ∈ d.debugPort, 0 < p
  jmxPort : ∀ p ∈ d.jmxPort, 0 < p
  watchdogPort : ∀ p ∈ d.watchdogPort, 0 < p
  extra : ∀ e ∈ d.extraArguments, e ≠ "" ∧ ClosesQuotes e.toList ∧ joined (tokens e.toList) = e ∧
    ∀ t ∈ tokens e.toList, ¬ SpellsFlag t.text

/-- A profile of which its line shows everything, apart from texts that are empty. -/
structure Readable (d : ServiceProfile) : Prop where
  quotable : d.Quotable
  server : d.server ≠ .fixed "" ∧ d.server ≠ .dynamic ""
  debugPort : ∀ p ∈ d.debugPort, p.toNat ≠ 0
  jmxPort : ∀ p ∈ d.jmxPort, p.toNat ≠ 0
  watchdogPort : ∀ p ∈ d.watchdogPort, p.toNat ≠ 0
  extra : ∀ e ∈ d.extraArguments, ReadableExtra e

/-- No flag of the line has an empty text. -/
def NoEmptyText (d : ServiceProfile) : Prop := ∀ f, d.written f ≠ some ""

theorem WritableTexts.isValue_written (h : d.WritableTexts) :
    ∀ f, ∀ v ∈ d.written f, IsValue v :=
  forall_written h.name h.home h.confFile h.rootDirectory h.logDirectory h.server isValue_repr

/-- A profile that is written with nothing left out is readable. -/
theorem Writable.readable (h : d.Writable) : d.Readable where
  quotable f v hv := (h.isValue_written f v hv).toIsQuotable
  server := ⟨fun he ↦ (h.server _ (Or.inl he)).ne_empty rfl,
    fun he ↦ (h.server _ (Or.inr he)).ne_empty rfl⟩
  debugPort p hp := Port.toNat_ne_zero_of_pos (h.debugPort p hp)
  jmxPort p hp := Port.toNat_ne_zero_of_pos (h.jmxPort p hp)
  watchdogPort p hp := Port.toNat_ne_zero_of_pos (h.watchdogPort p hp)
  extra e he :=
    have ⟨hne, hbal, hjoined, hflag⟩ := h.extra e he
    ⟨hne, hjoined, hflag, Or.inl hbal⟩

theorem Writable.noEmptyText (h : d.Writable) : d.NoEmptyText :=
  fun f hf ↦ (h.isValue_written f "" hf).ne_empty rfl

theorem isValue_written (h : d.Quotable) (hne : d.NoEmptyText) :
    ∀ f, ∀ v ∈ d.written f, IsValue v :=
  fun f v hv ↦ ⟨h f v hv, fun he ↦ hne f (he ▸ hv)⟩

/-! ### Reading the line -/

/-- The line leaves no quote open if no part of it does. -/
theorem closesQuotes_argumentLine (h : ∀ p ∈ d.flagParts, ClosesQuotes p.toList)
    (he : ClosesQuotes d.extraText.toList) : ClosesQuotes d.argumentLine.toList := by
  rw [argumentLine, String.toList_intercalate]
  refine closesQuotes_intercalate fun p hp ↦ ?_
  obtain ⟨part, hpart, rfl⟩ := List.mem_map.1 hp
  rw [argumentParts_eq, List.mem_append] at hpart
  rcases hpart with hpart | hpart
  · exact h part hpart
  · obtain ⟨hextra, -⟩ := ne_empty_of_ifNonEmpty (Option.mem_toList.1 hpart)
    rw [extraText, hextra] at he
    exact he

/-- Extra arguments stand behind a blank at the end of the line. -/
theorem argumentLine_eq_append {e : String} (hextra : d.extraArguments = some e) (he : e ≠ "") :
    d.argumentLine = String.intercalate " " d.flagParts ++ " " ++ e := by
  have hpart : ifNonEmpty d.extraArguments = some e := by
    rw [hextra, ifNonEmpty_some he]
  rw [argumentLine, argumentParts_eq, hpart, Option.toList_some,
    String.intercalate_append_of_ne_nil (by simp [flagParts]) (by simp),
    String.intercalate_singleton]

/-- A line ends as its extra arguments do, if there are any. -/
theorem getLast?_argumentLine {e : String} (hextra : d.extraArguments = some e) (he : e ≠ "") :
    d.argumentLine.toList.getLast? = e.toList.getLast? := by
  have hne : e.toList ≠ [] := by simpa using he
  rw [argumentLine_eq_append hextra he, String.toList_append, List.getLast?_append_of_ne_nil _ hne]

/-- The tokens of a line are those of its flags and extra arguments, also when it is trimmed. -/
theorem tokens_trim_argumentLine (h : d.Readable) :
    tokens (trim d.argumentLine.toList) = d.flagTokens ++ tokens d.extraText.toList := by
  -- the line closes its quotes, or it ends as its extra arguments do
  have hflags := h.quotable.closesQuotes_flagParts
  have hclosed : ClosesQuotes d.argumentLine.toList ∨
      ∀ c ∈ d.argumentLine.toList.getLast?, isBlank c = false := by
    rcases hextra : d.extraArguments with - | e
    · refine Or.inl (closesQuotes_argumentLine hflags ?_)
      rw [extraText, hextra]
      exact closesQuotes_nil
    · have he := h.extra e hextra
      refine he.closed.imp (fun hbal ↦ closesQuotes_argumentLine hflags ?_) fun hlast ↦ ?_
      · rwa [extraText, hextra]
      · rwa [getLast?_argumentLine hextra he.ne_empty]
  exact (tokens_trim hclosed).trans h.quotable.tokens_argumentLine

/-- **No executable is read in a line.** -/
theorem leadingExecutable_argumentLine (h : d.Readable) :
    leadingExecutable (trim d.argumentLine.toList) =
      (none, d.flagTokens ++ tokens d.extraText.toList) := by
  have htokens := tokens_trim_argumentLine h
  rw [flagTokens, List.cons_append] at htokens ⊢
  refine leadingExecutable_of_dash (head?_trim d.head?_argumentLine (by decide)) htokens ?_
  rw [Flag.chars_token]
  exact Flag.head?_text _

/-- No extra argument is a flag. -/
theorem flag?_of_mem_extra (h : d.Readable) : ∀ t ∈ tokens d.extraText.toList, t.flag? = none := by
  intro t ht
  rw [Token.flag?_eq_none_iff]
  rw [extraText] at ht
  rcases hextra : d.extraArguments with - | e
  · rw [hextra] at ht
    cases ht
  · rw [hextra] at ht
    exact (h.extra e hextra).not_flag t ht

/-- What the line of a readable profile is read as: each flag with its text, and the extra
arguments. -/
theorem parse_argumentLine (h : d.Readable) (hne : d.NoEmptyText) :
    Arguments.parse d.argumentLine =
      Arguments.finish (d.writtenOver .empty, tokens d.extraText.toList) := by
  rw [Arguments.parse_eq (leadingExecutable_argumentLine h)]
  show Arguments.finish (Arguments.ofTokens .empty _) = _
  rw [ofTokens_flagTokens (isValue_written h.quotable hne),
    Arguments.ofTokens_of_forall_none (flag?_of_mem_extra h)]

/-- The server is read back from its two flags. -/
theorem serverOf_of_readable (h : d.Readable) {args : Arguments}
    (hserver : args.value .server = d.written .server)
    (hdynamic : args.value .dynamicServer = d.written .dynamicServer) :
    serverOf args = d.server := by
  obtain ⟨hnotFixed, hnotDynamic⟩ := h.server
  rw [serverOf, hserver, hdynamic]
  rcases hd : d.server with - | id | address
  · simp [written, hd]
  · have hid : id ≠ "" := fun he ↦ hnotFixed (by rw [hd, he])
    simp [written, hd, ifNonEmpty_some hid]
  · have haddress : address ≠ "" := fun he ↦ hnotDynamic (by rw [hd, he])
    simp [written, hd, ifNonEmpty_some haddress]

/-- The extra text that comes of the tokens of readable extra arguments. -/
theorem ifNonEmpty_extra (h : d.Readable) {args : Arguments} :
    ifNonEmpty (Arguments.finish (args, tokens d.extraText.toList)).extra = d.extraArguments := by
  rw [extraText, Arguments.finish]
  rcases hextra : d.extraArguments with - | e
  · rfl
  · have he := h.extra e hextra
    have hnil : (tokens e.toList).isEmpty = false := by
      simpa using he.tokens_ne_nil
    simp only [Option.getD_some, hnil, Bool.false_eq_true, if_false]
    rw [he.joined, ifNonEmpty_some he.ne_empty]

/-- **A readable profile is rebuilt from arguments that say what its line says.** -/
theorem ofArguments_of_readable (h : d.Readable) {args : Arguments}
    (hvalue : ∀ f ≠ .exe, args.value f = d.written f) (hpreview : args.preview = d.isPreview)
    (hextra : ifNonEmpty args.extra = d.extraArguments) :
    ofArguments d.name d.home args = { d.recorded with executable := args.value .exe } := by
  have hserver := serverOf_of_readable h (hvalue .server (by decide))
    (hvalue .dynamicServer (by decide))
  rw [ofArguments, hserver, hpreview, hextra, hvalue .rootDirectory (by decide),
    hvalue .logDirectory (by decide), hvalue .conf (by decide), hvalue .user (by decide),
    hvalue .javaHome (by decide), hvalue .debugPort (by decide), hvalue .jmxPort (by decide),
    hvalue .watchdogPort (by decide)]
  simp only [written, Port.bind_ofText?_text? h.debugPort, Port.bind_ofText?_text? h.jmxPort,
    Port.bind_ofText?_text? h.watchdogPort]
  rfl

/-- **A readable profile without empty texts is read back from its line.** -/
theorem ofArguments_parse_of_readable (h : d.Readable) (hne : d.NoEmptyText) :
    ofArguments d.name d.home (Arguments.parse d.argumentLine) = d.recorded := by
  have hvalue (f : ValueFlag) : (Arguments.parse d.argumentLine).value f = d.written f := by
    rw [parse_argumentLine h hne]
    exact Option.or_none
  have hpreview : (Arguments.parse d.argumentLine).preview = d.isPreview := by
    rw [parse_argumentLine h hne]
    rfl
  have hextra : ifNonEmpty (Arguments.parse d.argumentLine).extra = d.extraArguments := by
    rw [parse_argumentLine h hne]
    exact ifNonEmpty_extra h
  rw [ofArguments_of_readable h (fun f _ ↦ hvalue f) hpreview hextra, hvalue]
  rfl

/-- **A written profile is read back.** Its line asks for a run as a service, names no executable,
and gives the name and the home; what comes back is the profile without its executable, account
and Java home, and is written as the same line. -/
theorem ofArguments_parse_argumentLine (h : d.Writable) :
    let args := Arguments.parse d.argumentLine
    args.service = true ∧ args.value .exe = none ∧ args.value .name = some d.name ∧
      args.value .home = some d.home ∧
      ofArguments d.name d.home args =
        { d with executable := none, runAsUser := none, javaHome := none, password := none } ∧
      (ofArguments d.name d.home args).argumentLine = d.argumentLine := by
  have hparse := parse_argumentLine h.readable h.noEmptyText
  have hprofile := ofArguments_parse_of_readable h.readable h.noEmptyText
  refine ⟨?_, ?_, ?_, ?_, hprofile, ?_⟩
  · rw [hparse]
    rfl
  · rw [hparse]
    rfl
  · rw [hparse]
    rfl
  · rw [hparse]
    rfl
  · rw [hprofile, argumentLine_recorded]

/-- A profile with blank characters in its texts and quotes in its extra arguments. -/
def sample : ServiceProfile where
  name := "resin web"
  home := "C:\\Program Files\\resin-pro"
  executable := some "C:\\resin\\resin.exe"
  logDirectory := some "-log dir"
  runAsUser := some ".\\resin"
  password := some ⟨"s3cret"⟩
  isPreview := true
  server := .dynamic "192.168.0.10:6800"
  jmxPort := some 7800
  extraArguments := some "-J-Dapp.name=\"a b\" -verbose"

/-- The sample profile is written with nothing left out. -/
theorem writable_sample : sample.Writable where
  name := by decide
  home := by decide
  confFile v hv := by cases hv
  rootDirectory v hv := by cases hv
  logDirectory v hv := by
    rw [← Option.some.inj hv]
    decide
  server v hv := by
    rcases hv with hv | hv
    · cases hv
    · rw [← ServerChoice.dynamic.inj hv]
      decide
  debugPort p hp := by cases hp
  jmxPort p hp := by
    rw [← Option.some.inj hp]
    decide
  watchdogPort p hp := by cases hp
  extra e he := by
    rw [← Option.some.inj he]
    decide

theorem sample_read_back :
    sample.Writable ∧
      ofArguments sample.name sample.home (Arguments.parse sample.argumentLine) =
        { sample with executable := none, runAsUser := none, password := none } :=
  ⟨writable_sample, (ofArguments_parse_argumentLine writable_sample).2.2.2.2.1⟩

end ServiceProfile

end ServerSetup
