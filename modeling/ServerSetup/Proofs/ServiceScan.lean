import ServerSetup.ServiceScan
import ServerSetup.Proofs.ServiceManager.Update

/-!
# Scanning the services after an update

A scan of faithful service records finds, under each name, what the record of this name describes
(`exists_describedServices`). An update writes a record that starts with the path of the executable,
and such a record describes the profile again (`scanned_updated`). Together: what the management of
services writes is what the next scan finds.

A scan goes through the listed names and makes of each record at most one profile, with the name of
the service. Since a name is listed once, the profiles with a given name are those that its own
record gives (`filter_flatMap`), and the other services do not matter. The home is written in the
line and is taken from there, so that it is found again whether or not it is on the disk. What is
lost is what a line does not keep: the account, the Java home and the password.
-/

namespace ServerSetup

open CommandLine ServiceProfile Text

variable {η : Type} {records : ServiceRecords η} {v : ServiceRecords.View η} {w : World η}

/-! ### What a scan finds -/

/-- What a scan makes of a record that is not blank. -/
def scanned (test : HomeTest) (launcher : String) (disk : Disk) (name record : String) :
    Option ServiceProfile :=
  if isBlankText record then none else describedService? test disk launcher name record

/-- What a scan makes of a record has the name of the service. -/
theorem name_of_scanned {test : HomeTest} {launcher : String} {disk : Disk} {name record : String}
    {d : ServiceProfile} (h : scanned test launcher disk name record = some d) : d.name = name := by
  rw [scanned] at h
  split at h
  · cases h
  · obtain ⟨args, -, hargs⟩ := Option.bind_eq_some_iff.1 h
    split at hargs
    · obtain ⟨home, -, rfl⟩ := Option.map_eq_some_iff.1 hargs
      rfl
    · cases hargs

/-- The record of the first service is read, and then those of the others. -/
theorem readRecords_cons {α : Type} {f : Disk → String → String → Option α} {name : String}
    {names : List String} {record : Option String} {h : η}
    (hread : records.record name w = (.ok record, { w with host := h })) :
    readRecords records f (name :: names) w =
      ((record.bind (f w.disk name)).toList ++
          (readRecords records f names { w with host := h }).1,
        (readRecords records f names { w with host := h }).2) := by
  rcases record with - | line
  · simp only [readRecords, bind, StateT.bind, hread]
    rfl
  · simp only [readRecords, bind, StateT.bind, hread]
    rfl

/-- Reading the records of some services makes of each what its record says, and changes nothing
that can be seen. -/
theorem exists_readRecords (hrecords : records.Faithful v) {α : Type}
    (f : Disk → String → String → Option α) (names : List String) (hcalm : v.calm w.host) :
    ∃ h, readRecords records f names w =
        (names.flatMap fun name ↦ ((v.record w.host name).bind (f w.disk name)).toList,
          { w with host := h }) ∧ v.Same w.host h := by
  induction names generalizing w with
  | nil => exact ⟨w.host, rfl, hcalm, rfl, rfl⟩
  | cons name names ih =>
    obtain ⟨h, hread, hsame⟩ := hrecords.record w name hcalm
    obtain ⟨h', hrest, hsame'⟩ := @ih { w with host := h } hsame.calm
    refine ⟨h', ?_, hsame.trans hsame'⟩
    rw [readRecords_cons hread, hrest, List.flatMap_cons, hsame.record]

/-- Of lists that belong to different names, only the list of a name contains what has this name. -/
theorem filter_flatMap {names : List String} {g : String → List ServiceProfile}
    (hnodup : names.Nodup) (hname : ∀ name, ∀ d ∈ g name, d.name = name) {name : String}
    (hlisted : g name ≠ [] → name ∈ names) :
    (names.flatMap g).filter (·.name = name) = g name := by
  have hothers {others : List String} (h : name ∉ others) :
      (others.flatMap g).filter (·.name = name) = [] := by
    refine List.filter_eq_nil_iff.2 fun d hd ↦ ?_
    obtain ⟨other, hother, hd⟩ := List.mem_flatMap.1 hd
    rw [hname other d hd, decide_eq_true_eq]
    rintro rfl
    exact h hother
  have hown : (g name).filter (·.name = name) = g name :=
    List.filter_eq_self.2 fun d hd ↦ decide_eq_true (hname name d hd)
  -- the name stands once in the list, with other names on both sides, or not at all
  by_cases hmem : name ∈ names
  · obtain ⟨front, behind, rfl⟩ := List.append_of_mem hmem
    obtain ⟨-, htail, hdisjoint⟩ := List.nodup_append.1 hnodup
    have hfront : name ∉ front := fun h ↦ hdisjoint name h name List.mem_cons_self rfl
    have hbehind : name ∉ behind := (List.nodup_cons.1 htail).1
    rw [List.flatMap_append, List.flatMap_cons, List.filter_append, List.filter_append,
      hothers hfront, hown, hothers hbehind, List.nil_append, List.append_nil]
  · have hnil : g name = [] := by
      by_contra hne
      exact hmem (hlisted hne)
    rw [hothers hmem, hnil]

/-- **A scan finds under each name what the record of this name describes**, once. -/
theorem exists_describedServices (hrecords : records.Faithful v) (test : HomeTest)
    (launcher : String) (hcalm : v.calm w.host) :
    ∃ found h, describedServices records test launcher w = (.ok found, { w with host := h }) ∧
      v.Same w.host h ∧ ∀ name, found.filter (·.name = name) =
        ((v.record w.host name).bind (scanned test launcher w.disk name)).toList := by
  obtain ⟨h, hlist, hsame⟩ := hrecords.list w hcalm
  obtain ⟨h', hread, hsame'⟩ := @exists_readRecords _ _ _ { w with host := h } hrecords _
    (scanned test launcher) (v.names w.host) hsame.calm
  rw [hsame.record] at hread
  refine ⟨_, h', ?_, hsame.trans hsame', fun name ↦ filter_flatMap (hrecords.nodup _ hcalm) ?_ ?_⟩
  · exact SetupM.bind_eq_ok_iff.2
      ⟨_, _, SetupM.call_eq_ok_iff.2 hlist, SetupM.lift_eq_ok hread⟩
  · intro name d hd
    obtain ⟨record, -, hrecord⟩ := Option.bind_eq_some_iff.1 (Option.mem_toList.1 hd)
    exact name_of_scanned hrecord
  · intro hne
    rcases hrecord : v.record w.host name with - | record
    · rw [hrecord] at hne
      exact absurd rfl hne
    · exact hrecords.listed _ _ _ hcalm hrecord

/-! ### What an update writes -/

variable {d : ServiceProfile} {path record updated launcher : String}

/-- **A profile is read back from the record that an update writes.** -/
theorem parse_updated (hd : d.Writable) (hpath : IsExecutablePath path)
    (hrecord : StartsWithPath record path) (hupdated : d.updatedRecord record = some updated) :
    Arguments.parse updated = Arguments.finish
      (d.writtenOver (Arguments.startingWith (some path)), tokens d.extraText.toList) := by
  obtain ⟨part, hpart, hclosed, hlead⟩ := hpath.exists_executablePart hrecord
  obtain ⟨part', hpart', rfl⟩ := Option.map_eq_some_iff.1 hupdated
  rw [hpart, Option.some.injEq] at hpart'
  subst hpart'
  have hfront := isFront_executablePart hpart
  have htrim : trimEnd d.argumentLine.toList = trim d.argumentLine.toList := by
    rw [trim, trimStart_eq_self]
    intro c hc
    rw [d.head?_argumentLine, Option.mem_some_iff] at hc
    rw [← hc]
    decide
  have hupdated' : leadingExecutable (trim (part ++ " " ++ d.argumentLine).toList) =
      (some path, d.flagTokens ++ tokens d.extraText.toList) := by
    rw [trim_append_argumentLine hfront, leadingExecutable_front hfront hclosed, hlead,
      List.nil_append, htrim, tokens_trim_argumentLine hd.readable]
  rw [Arguments.parse_eq hupdated', ofTokens_flagTokens hd.isValue_written,
    Arguments.ofTokens_of_forall_none (flag?_of_mem_extra hd.readable)]

/-- **The record that an update writes describes the profile**, if its path names the launcher. -/
theorem scanned_updated (hd : d.Writable) (hpath : IsExecutablePath path)
    (hlauncher : namesLauncher path launcher = true) (hrecord : StartsWithPath record path)
    (hupdated : d.updatedRecord record = some updated) (test : HomeTest) (disk : Disk) :
    scanned test launcher disk d.name updated =
      some { d.recorded with executable := some path } := by
  have hparse := parse_updated hd hpath hrecord hupdated
  set args := Arguments.parse updated
  have hexe : args.value .exe = some path := by
    rw [hparse]
    rfl
  -- The written line gives every field but the executable, which is the path in front of it.
  have hvalue : ∀ f ≠ .exe, args.value f = d.written f := by
    intro f hf
    rw [hparse]
    show (d.written f).or ((Arguments.empty.set .exe path).value f) = _
    rw [Arguments.value_set_of_ne _ hf]
    exact Option.or_none
  have hhome : homeOf? test disk args = some d.home := by
    have hfilter : (args.value .home).filter (! ·.isEmpty) = some d.home := by
      rw [hvalue .home (by decide)]
      exact ifNonEmpty_some hd.home.ne_empty
    rw [homeOf?, hfilter]
  have hprofile : ofArguments d.name d.home args =
      { d.recorded with executable := some path } := by
    rw [ofArguments_of_readable hd.readable hvalue ?_ ?_, hexe]
    · rw [hparse]
      rfl
    · rw [hparse]
      exact ifNonEmpty_extra hd.readable
  have hservice : args.service = true := by
    rw [hparse]
    rfl
  have hblank : isBlankText updated = false := by
    obtain ⟨part, -, rfl⟩ := Option.map_eq_some_iff.1 hupdated
    refine List.all_eq_false.2 ⟨'-', ?_, by decide⟩
    simp [List.mem_of_head? d.head?_argumentLine]
  have hmanaged : launcherArguments? updated launcher = some args :=
    launcherArguments?_eq_some_iff.2 ⟨rfl, path, hexe, hlauncher⟩
  rw [scanned, hblank, describedService?, hmanaged]
  simp only [Bool.false_eq_true, if_false, Option.bind_some, hservice, if_true, hhome,
    Option.map_some, hprofile]

/-- **The next scan finds what an update has written.** Let the record of a service start with the
path of its executable, as it is or in quotes, whatever stands behind it. If no call fails and no
other operation on the service is under way, then an update with a profile succeeds, and the scan
that follows finds under the name of the service exactly this profile with that executable, without
account and Java home. All other services are found as before. -/
theorem describedServices_install {m : ServiceManager η} (hrecords : m.records.Faithful v)
    (test : HomeTest) (hd : d.Writable) (hpath : IsExecutablePath path)
    (hlauncher : namesLauncher path launcher = true) (hstart : StartsWithPath record path)
    (hcalm : v.calm w.host) (hrecord : v.record w.host d.name = some record)
    (hidle : w.phases.of? d.name = none) :
    ∃ w' found w'', m.install d false w = (.ok (), w') ∧
      describedServices m.records test launcher w' = (.ok found, w'') ∧
      found.filter (·.name = d.name) = [{ d with
        executable := some path, runAsUser := none, javaHome := none, password := none }] ∧
      ∀ before w₀, describedServices m.records test launcher w = (.ok before, w₀) →
        ∀ name ≠ d.name, found.filter (·.name = name) = before.filter (·.name = name) := by
  -- the update: the record is read, cut and written
  let w₁ := w.entering d.name .installing
  obtain ⟨h₁, hread, hsame₁⟩ := hrecords.record w₁ d.name hcalm
  have hread' : m.records.record d.name w₁ = (.ok (some record), { w₁ with host := h₁ }) := by
    rw [hread]
    exact congrArg (fun r ↦ (Except.ok r, { w₁ with host := h₁ })) hrecord
  obtain ⟨part, hpart, -⟩ := hpath.exists_executablePart hstart
  have hupdated : d.updatedRecord record = some (part ++ " " ++ d.argumentLine) := by
    rw [updatedRecord, hpart, Option.map_some]
  obtain ⟨h₂, hset, hcalm₂, hown, hothers⟩ :=
    hrecords.setRecord { w₁ with host := h₁ } d.name _ hsame₁.calm
  have hinstall := ServiceManager.install_eq_ok_iff.2
    ⟨hidle, record, _, _, _, hread', hupdated, hset, rfl⟩
  -- the scan: the record that was written, and those that were left alone
  set w' := ({ w₁ with host := h₂ } : World η).leaving d.name
  obtain ⟨found, h₃, hscan, -, hfound⟩ :=
    @exists_describedServices _ _ _ w' hrecords test launcher hcalm₂
  refine ⟨w', found, _, hinstall, hscan, ?_, ?_⟩
  · have hwritten := scanned_updated hd hpath hlauncher hstart hupdated test w.disk
    have hrecord' : v.record w'.host d.name = some (part ++ " " ++ d.argumentLine) := hown
    rw [hfound, hrecord', Option.bind_some]
    show (scanned test launcher w.disk d.name _).toList = _
    rw [hwritten]
    rfl
  · intro before w₀ hbefore name hname
    obtain ⟨found₀, h₀, hscan₀, -, hfound₀⟩ := exists_describedServices hrecords test launcher hcalm
    rw [hscan₀] at hbefore
    cases hbefore
    have hrecord' : v.record w'.host name = v.record w.host name :=
      (hothers name hname).trans (congrFun hsame₁.record name)
    rw [hfound, hfound₀, hrecord']
    rfl

/-- A quoted path with a blank character in it, and arguments that the update replaces. -/
theorem sample_described :
    let path := "C:\\Program Files\\resin\\Resin.exe"
    let record := "\"C:\\Program Files\\resin\\Resin.exe\"\t-service -server old -exe"
    IsExecutablePath path ∧ StartsWithPath record path ∧ ∃ w' found w'',
      Rehearsal.manager.install sample false
          (Rehearsal.worldWith [("resin web", some record), ("web", none)]) = (.ok (), w') ∧
      describedServices Rehearsal.manager.records (HomeTest.byMarkers []) "resin.exe" w' =
        (.ok found, w'') ∧
      found.filter (·.name = "resin web") = [{ sample with
        executable := some path, runAsUser := none, password := none }] := by
  intro path record
  have hcut : cutAfterExe path.toList = some (path.toList, []) := by decide +kernel
  have hpath : IsExecutablePath path := {
    no_quote := by decide
    no_dash := by decide
    isBlank_head? c hc := by
      have hfirst : path.toList.head? = some 'C' := by decide
      rw [hfirst, Option.mem_some_iff] at hc
      rw [← hc]
      decide
    endsInExe := by decide +kernel
    first := (cutAfterExe_eq_some_iff.1 hcut).2.2
    words := by decide +kernel }
  have hstart : StartsWithPath record path :=
    Or.inr ⟨"\t-service -server old -exe".toList, by decide⟩
  have hrecords : Rehearsal.manager.records.Faithful Rehearsal.view :=
    Rehearsal.faithful_records none (pure ())
  obtain ⟨w', found, w'', hinstall, hscan, hfound, -⟩ :=
    @describedServices_install _ _ (Rehearsal.worldWith [("resin web", some record), ("web", none)])
      _ _ _ "resin.exe" Rehearsal.manager hrecords (HomeTest.byMarkers []) writable_sample hpath
      (by decide) hstart ⟨rfl, by decide⟩ rfl rfl
  exact ⟨hpath, hstart, w', found, w'', hinstall, hscan, hfound⟩

end ServerSetup
