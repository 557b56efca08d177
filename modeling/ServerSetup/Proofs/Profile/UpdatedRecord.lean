import ServerSetup.Proofs.Profile.RoundTrip

/-!
# Records that an update writes

An update keeps the front of a record, up to its first `.exe`, and puts the argument line of a
profile behind it. Whatever the line is, the executable of the new record is read from the front,
provided that the front is closed: an executable without quotes around it, or a text that closes its
quotes (`value_exe_append`). A quote that the front leaves open is closed by the first quote in the
line, and what follows can set the executable to anything (`value_exe_overriding`). So an update
keeps the executable, for every profile, if and only if the front is closed and reads as the
executable of the record (`forall_value_exe_iff`).
-/

namespace ServerSetup

open CommandLine Text

/-- The launcher recognises a record exactly by the executable that is read in it. -/
theorem CommandLine.launcherArguments?_eq_some_iff {record launcher : String} {args : Arguments} :
    launcherArguments? record launcher = some args ↔ Arguments.parse record = args ∧
      ∃ exe, args.value .exe = some exe ∧ namesLauncher exe launcher = true := by
  have hany (exe : Option String) : exe.any (namesLauncher · launcher) = true ↔
      ∃ path, exe = some path ∧ namesLauncher path launcher = true := by
    cases exe <;> simp
  rw [launcherArguments?, ← hany]
  split
  · rename_i h
    rw [Option.some.injEq]
    exact ⟨fun he ↦ ⟨he, he ▸ h⟩, fun he ↦ he.1⟩
  · rename_i h
    constructor
    · intro he
      cases he
    · rintro ⟨rfl, he⟩
      exact absurd he h

namespace ServiceProfile

variable {d : ServiceProfile}

/-- A profile that can be entered in a record: its texts are values, and none of its extra arguments
is a flag. -/
structure Enterable (d : ServiceProfile) : Prop extends WritableTexts d where
  extra : ∀ t ∈ tokens d.extraText.toList, ¬ SpellsFlag t.text

/-- The record that an update of a profile writes in place of another one. -/
def updatedRecord (d : ServiceProfile) (record : String) : Option String :=
  (executablePart? record).map fun part ↦ part ++ " " ++ d.argumentLine

theorem Enterable.quotable (h : d.Enterable) : d.Quotable :=
  fun f v hv ↦ (h.isValue_written f v hv).toIsQuotable

theorem Writable.enterable (h : d.Writable) : d.Enterable where
  toWritableTexts := h.toWritableTexts
  extra t ht := Token.flag?_eq_none_iff.1 (flag?_of_mem_extra h.readable t ht)

/-! ### The trimmed line behind a front -/

/-- A line without the blank characters at its end starts with the service switch, and no token
but the last can set the executable. -/
theorem Enterable.exists_tokens_trimEnd (h : d.Enterable) :
    ∃ ts, tokens (trimEnd d.argumentLine.toList) = Flag.service.token :: ts ∧
      ∀ t ∈ ts.dropLast, t.flag? ≠ some (.value .exe) := by
  have hline := h.quotable.tokens_argumentLine
  have hflags := @flag?_of_mem_flagTokens d h.quotable .exe (by decide) (by decide)
  have hnone : ∀ t ∈ tokens d.argumentLine.toList, t.flag? ≠ some (.value .exe) := by
    intro t ht
    rw [hline, List.mem_append] at ht
    rcases ht with ht | ht
    · exact hflags t ht
    · rw [Token.flag?_eq_none_iff.2 (h.extra t ht)]
      simp
  have hname : partTokens (valuePart .name (some d.name)) =
      (Flag.value .name).token :: if d.name = "" then [] else [valueToken d.name] :=
    partTokens_valuePart h.name.toIsQuotable
  obtain ⟨t, ts, hcons⟩ : ∃ t ts, tokens d.argumentLine.toList = Flag.service.token :: t :: ts := by
    rw [hline, flagTokens, leadingFlags, valueParts, List.flatMap_cons, partTokens_append]
    simp only [written, hname, List.cons_append]
    exact ⟨_, _, rfl⟩
  -- trimming may cut into a quote that the extra arguments leave open, but only in the last token
  have hdrop := dropLast_tokens_trimEnd d.argumentLine.toList
  rw [hcons, List.dropLast_cons_cons] at hdrop
  rcases htrim : tokens (trimEnd d.argumentLine.toList) with - | ⟨u, us⟩
  · rw [htrim] at hdrop
    cases hdrop
  · rw [htrim] at hdrop
    rcases us with - | ⟨v, us⟩
    · cases hdrop
    · rw [List.dropLast_cons_cons] at hdrop
      obtain ⟨rfl, htail⟩ := List.cons.inj hdrop
      refine ⟨v :: us, rfl, fun w hw ↦ hnone w ?_⟩
      rw [htail] at hw
      rw [hcons]
      exact List.mem_cons_of_mem _ (List.dropLast_subset _ hw)

/-- What an update writes, without the blank characters around it. -/
theorem trim_append_argumentLine {part : String} (h : IsFront (trimStart part.toList)) :
    trim (part ++ " " ++ d.argumentLine).toList =
      trimStart part.toList ++ ' ' :: trimEnd d.argumentLine.toList := by
  have hpart : ∃ c ∈ part.toList, isBlank c = false := by
    obtain ⟨c, hc, hblank⟩ := h.exists_not_blank
    exact ⟨c, (List.dropWhile_suffix isBlank).subset hc, hblank⟩
  have hline : ∃ c ∈ d.argumentLine.toList, isBlank c = false :=
    ⟨'-', List.mem_of_head? d.head?_argumentLine, by decide⟩
  have hspace : (part ++ " " ++ d.argumentLine).toList =
      part.toList ++ (' ' :: d.argumentLine.toList) := by
    simp
  rw [hspace, trim, trimStart_append hpart, ← List.singleton_append, ← List.append_assoc,
    trimEnd_append hline, List.append_assoc, List.singleton_append]

/-- A front has no blank at its end, so that only the blanks before it are trimmed. -/
theorem trim_front {part : String} (h : IsFront (trimStart part.toList)) :
    trim part.toList = trimStart part.toList := by
  rw [trim, trimEnd_eq_self h.isBlank_getLast?]

/-- **The executable of an updated record is that of its front**, if the front is closed. -/
theorem value_exe_append {record part : String} (h : executablePart? record = some part)
    (hclosed : ClosedFront (trimStart part.toList)) (hd : d.Enterable) :
    (Arguments.parse (part ++ " " ++ d.argumentLine)).value .exe =
        (Arguments.parse part).value .exe ∧
      (Arguments.parse (part ++ " " ++ d.argumentLine)).service = true := by
  have hfront := isFront_executablePart h
  obtain ⟨ts, hts, hother⟩ := hd.exists_tokens_trimEnd
  rcases hlead : leadingExecutable (trimStart part.toList) with ⟨exe, us⟩
  have hpart : Arguments.parse part =
      Arguments.finish (Arguments.ofTokens (Arguments.startingWith exe) us) := by
    refine Arguments.parse_eq ?_
    rw [trim_front hfront, hlead]
  have hupdated : Arguments.parse (part ++ " " ++ d.argumentLine) = Arguments.finish
      (Arguments.ofTokens (Arguments.startingWith exe) (us ++ Flag.service.token :: ts)) := by
    refine Arguments.parse_eq ?_
    rw [trim_append_argumentLine hfront, leadingExecutable_front hfront hclosed, hlead, hts]
  rw [hpart, hupdated, Arguments.ofTokens_append (by simp), Arguments.value_finish,
    Arguments.value_finish, Arguments.ofTokens_service (Flag.flag?_token .service)]
  exact ⟨Arguments.value_ofTokens_of_dropLast hother, Arguments.service_ofTokens rfl⟩

/-! ### Fronts that leave a quote open -/

/-- A profile whose line sets the executable to `1` or `2` behind a quote that was left open. -/
def overriding (second : Bool) : ServiceProfile where
  name := if second then "a -exe 2 b" else "a -exe 1 b"
  home := "h"

/-- The profiles that override an executable can be entered. -/
theorem enterable_overriding (second : Bool) : (overriding second).Enterable where
  name := by cases second <;> decide
  home := by cases second <;> decide
  confFile v hv := by cases hv
  rootDirectory v hv := by cases hv
  logDirectory v hv := by cases hv
  server v hv := by rcases hv with hv | hv <;> cases hv
  extra t ht := by cases ht

/-- **Behind a front that leaves a quote open the line can set any executable.** The first quote in
the line ends the quoted text, so that its value is cut into tokens of its own. -/
theorem value_exe_overriding {record part : String} (h : executablePart? record = some part)
    (hopen : ¬ ClosedFront (trimStart part.toList)) (second : Bool) :
    (Arguments.parse (part ++ " " ++ (overriding second).argumentLine)).value .exe =
      some (if second then "2" else "1") := by
  have hfront := isFront_executablePart h
  set front := trimStart part.toList
  obtain ⟨hnotplain, hunbalanced⟩ := not_or.1 hopen
  -- the line up to the blank character behind the first letter of the name, and the rest
  let quoted : List Char := " -service -name \"a".toList
  let free : List Char :=
    (if second then "-exe 2 b\" -resin-home h" else "-exe 1 b\" -resin-home h").toList
  have hline : ' ' :: trimEnd (overriding second).argumentLine.toList = quoted ++ ' ' :: free := by
    cases second <;> decide +kernel
  have htrim : trim (part ++ " " ++ (overriding second).argumentLine).toList =
      (front ++ quoted) ++ ' ' :: free := by
    rw [trim_append_argumentLine hfront, hline, List.append_assoc]
  have hbalanced : ClosesQuotes (front ++ quoted) := by
    rw [ClosesQuotes, List.count_append, Nat.even_add]
    exact iff_of_false hunbalanced (by decide)
  have hplain : plainExecutable? ((front ++ quoted) ++ ' ' :: free) = none := by
    rcases plainExecutable?_front hfront (quoted.tail ++ ' ' :: free) with ⟨hsome, -⟩ | ⟨-, hnone⟩
    · rw [hsome] at hnotplain
      exact absurd rfl hnotplain
    · rw [List.append_assoc]
      exact hnone
  have hne : tokens (front ++ quoted) ≠ [] := by
    refine tokens_ne_nil ⟨'a', List.mem_append_right _ ?_, by decide⟩
    decide
  obtain ⟨exe, ts, hlead⟩ := exists_leadingExecutable_append hplain
    (tokens_append_blank hbalanced (by decide)) hne
  have hfree : tokens free = [(Flag.value .exe).token, .ofRaw [if second then '2' else '1'],
      .ofRaw "b\" -resin-home h".toList] := by
    cases second <;> decide
  have hvalue (second : Bool) : (Token.ofRaw [if second then '2' else '1']).flag? = none := by
    cases second <;> decide
  rw [Arguments.parse_eq (htrim ▸ hlead), hfree, Arguments.value_finish,
    Arguments.ofTokens_append (by simp), Arguments.ofTokens_value (Flag.flag?_token _) (hvalue _),
    Arguments.value_ofTokens_of_forall_ne (by decide), Arguments.value_set_self]
  cases second <;> rfl

/-! ### When an update keeps the executable -/

/-- The front that an update keeps of a record reads as the executable of the record, and is
closed. -/
def KeepsExecutable (record : String) : Prop :=
  ∀ part ∈ executablePart? record,
    (Arguments.parse part).value .exe = (Arguments.parse record).value .exe ∧
      ClosedFront (trimStart part.toList)

instance : DecidablePred KeepsExecutable := fun record ↦
  inferInstanceAs (Decidable (∀ part ∈ executablePart? record, _ ∧ _))

/-- **When every update keeps the executable of a record.** -/
theorem forall_value_exe_iff {record : String} :
    (∀ d : ServiceProfile, d.Enterable → ∀ updated ∈ d.updatedRecord record,
        (Arguments.parse updated).value .exe = (Arguments.parse record).value .exe) ↔
      KeepsExecutable record := by
  constructor
  · intro h part hpart
    have hkept (d : ServiceProfile) (hd : d.Enterable) :
        (Arguments.parse (part ++ " " ++ d.argumentLine)).value .exe =
          (Arguments.parse record).value .exe := by
      refine h d hd _ ?_
      rw [updatedRecord, Option.mem_def.1 hpart]
      rfl
    by_cases hclosed : ClosedFront (trimStart part.toList)
    · refine ⟨?_, hclosed⟩
      rw [← (value_exe_append hpart hclosed (enterable_overriding true)).1]
      exact hkept _ (enterable_overriding true)
    · -- two profiles set the executable to different values
      have hfirst := hkept _ (enterable_overriding false)
      have hsecond := hkept _ (enterable_overriding true)
      rw [value_exe_overriding hpart hclosed] at hfirst hsecond
      rw [← hfirst] at hsecond
      exact absurd hsecond (by decide)
  · intro h d hd updated hupdated
    obtain ⟨part, hpart, rfl⟩ := Option.map_eq_some_iff.1 hupdated
    obtain ⟨hexe, hclosed⟩ := h part hpart
    rw [(value_exe_append hpart hclosed hd).1, hexe]

end ServiceProfile

end ServerSetup
