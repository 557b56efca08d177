import ServerSetup.Console.Summary
import ServerSetup.ServiceScan
import ServerSetup.Proofs.Path.Segment

/-!
# The home that a record states

A scan of the services and the summary of one record take the home of a service from the same
places: the argument for it, and else the directory of the executable. They part where the argument
is there and empty, as a pair of quotes is: the scan goes on to the executable, and the summary
states no home. Everywhere else the summary states every home that a scan finds (`stated_home_iff`).

The summary consists of lines, and a home is stated in the one that starts with its label. A text
with a line break in it could look like such a line by itself; that it does not, since no other line
starts with the label, is a matter of the first characters of the lines
(`eq_or_head?_ne_of_mem_recordLines`).

The scan takes a home only if it passes the test for homes. The condition of `stated_home_iff` does
not mention the test: a home that is found has passed it, and for the summary it plays no part.
-/

namespace ServerSetup

open CommandLine

variable {test : HomeTest} {disk : Disk} {args : Arguments} {record home : String}

/-- A home that a scan finds is not empty. -/
theorem homeOf?_ne_empty (h : homeOf? test disk args = some home) : home ≠ "" := by
  rw [homeOf?] at h
  split at h
  · next written hwritten =>
    cases h
    have hnonempty := (Option.filter_eq_some_iff.1 hwritten).2
    rintro rfl
    exact absurd hnonempty (by decide)
  · obtain ⟨directory, hdirectory, htest⟩ := Option.bind_eq_some_iff.1 h
    obtain ⟨exe, -, habove⟩ := Option.bind_eq_some_iff.1 hdirectory
    split at htest
    · cases htest
      exact Path.above?_ne_empty habove
    · cases htest

namespace Console

/-- The summary states the home that a scan finds, unless the argument for it is empty. -/
theorem statedHome_of_homeOf? (h : homeOf? test disk args = some home)
    (hargument : args.value .home ≠ some "") : statedHome args = home := by
  rw [homeOf?] at h
  split at h
  · next written hwritten =>
    cases h
    rw [statedHome, (Option.filter_eq_some_iff.1 hwritten).1]
    rfl
  · next hnone =>
    obtain ⟨directory, hdirectory, htest⟩ := Option.bind_eq_some_iff.1 h
    obtain ⟨exe, hexe, habove⟩ := Option.bind_eq_some_iff.1 hdirectory
    have hunset : args.value .home = none := by
      rcases hvalue : args.value .home with - | written
      · rfl
      · rw [hvalue, Option.filter_some] at hnone
        split at hnone
        · cases hnone
        · next hempty =>
          rw [Bool.not_eq_true, Bool.not_eq_false', String.isEmpty_iff] at hempty
          rw [hempty] at hvalue
          exact absurd hvalue hargument
    split at htest
    · cases htest
      rw [statedHome, hunset, hexe, Option.none_or, Option.getD_some, habove, Option.getD_some]
    · cases htest

theorem statedHome_of_empty (hargument : args.value .home = some "") : statedHome args = "" := by
  rw [statedHome, hargument]
  rfl

/-- One line of a summary tells the home, and the others do not look like it. -/
theorem eq_or_head?_ne_of_mem_recordLines {line : String} (h : line ∈ recordLines record) :
    line = "home = " ++ statedHome (Arguments.parse record) ∨ line.toList.head? ≠ some 'h' := by
  have hlabel {label rest : String} (hhead : label.toList.head?.any (· != 'h') = true) :
      (label ++ rest).toList.head? ≠ some 'h' := by
    rw [String.toList_append, List.head?_append]
    cases hlabel : label.toList.head? <;> simp_all
  simp only [recordLines, List.mem_append, List.mem_cons, List.not_mem_nil, or_false,
    Option.mem_toList, List.mem_map] at h
  rcases h with ((rfl | rfl | rfl | rfl | rfl | rfl | rfl | rfl) | ⟨extra, -, rfl⟩) | rfl
  case inl.inl.inr.inr.inr.inl => exact .inl rfl
  case inl.inl.inr.inr.inr.inr.inl =>
    right
    unfold serverLine
    split
    · exact hlabel (by decide)
    · exact hlabel (by decide)
    · decide
  all_goals
    right
    exact hlabel (by decide)

/-- The line about the home in the summary of a record. -/
theorem mem_recordLines_iff :
    "home = " ++ home ∈ recordLines record ↔ statedHome (Arguments.parse record) = home := by
  constructor
  · intro hmem
    rcases eq_or_head?_ne_of_mem_recordLines hmem with hline | hhead
    · exact ((String.append_right_inj _).1 hline).symm
    · exact absurd (by simp) hhead
  · rintro rfl
    simp [recordLines, statedService, ServiceProfile.ofArguments]

/-- The summary has the arguments that the tool would write for what it has read. -/
theorem argumentLine_mem_recordLines (record : String) :
    "args = " ++ (statedService (Arguments.parse record)).argumentLine ∈ recordLines record :=
  List.mem_append_right _ List.mem_cons_self

/-- A home that is found by the directory of the executable. -/
theorem homeOf?_of_listed {directory : String}
    (hargument : (args.value .home).filter (! ·.isEmpty) = none)
    (hexe : (args.value .exe).bind Path.above? = some directory) (disk : Disk) :
    homeOf? (HomeTest.byList [directory] []) disk args = some directory := by
  have hsame : (disk.canonical directory).same (disk.canonical directory) = true :=
    beq_self_eq_true (disk.canonical directory).key
  have hlisted : (HomeTest.byList [directory] [] disk directory).isSome = true := by
    rw [HomeTest.byList, List.any_cons, hsame]
    rfl
  rw [homeOf?, hargument, hexe, Option.bind_some, if_pos hlisted]

/-- **Where the summary of a record states the home that a scan finds.** Let a scan find a home for
a record. The summary tells this home, and the argument line with it, exactly if the record's
argument for the home is not the empty text. If it is, the summary tells no home. -/
theorem stated_home_iff (h : homeOf? test disk (Arguments.parse record) = some home) :
    ("home = " ++ home ∈ recordLines record ∧
        "args = " ++ (ServiceProfile.ofArguments (((Arguments.parse record).value .name).getD "")
          home (Arguments.parse record)).argumentLine ∈ recordLines record ↔
      (Arguments.parse record).value .home ≠ some "") ∧
    ((Arguments.parse record).value .home = some "" → "home = " ∈ recordLines record) := by
  refine ⟨⟨fun hlines hempty ↦ ?_, fun hargument ↦ ?_⟩, fun hempty ↦ ?_⟩
  · have hstated := mem_recordLines_iff.1 hlines.1
    rw [statedHome_of_empty hempty] at hstated
    exact homeOf?_ne_empty h hstated.symm
  · have hstated := statedHome_of_homeOf? h hargument
    have hline := argumentLine_mem_recordLines record
    rw [statedService, hstated] at hline
    exact ⟨mem_recordLines_iff.2 hstated, hline⟩
  · exact mem_recordLines_iff.2 (statedHome_of_empty hempty)

/-- The home is the directory of the executable, for the scan and in the summary. -/
theorem stated_home_of_directory :
    let record := "\"C:\\Program Files\\resin\\Resin.exe\" -service -name web"
    let disk : Disk := { tree := .empty, workDirectory := [] }
    homeOf? (HomeTest.byList ["C:\\Program Files\\resin"] []) disk (Arguments.parse record) =
        some "C:\\Program Files\\resin" ∧
      "home = C:\\Program Files\\resin" ∈ recordLines record ∧
      "args = " ++ "-service -name web -resin-home \"C:\\Program Files\\resin\"" ∈
        recordLines record := by
  intro record disk
  have hunset : (Arguments.parse record).value .home = none := by decide +kernel
  have hfound : homeOf? (HomeTest.byList ["C:\\Program Files\\resin"] []) disk
      (Arguments.parse record) = some "C:\\Program Files\\resin" :=
    homeOf?_of_listed (by rw [hunset, Option.filter_none]) (by decide +kernel) disk
  have hargument : (Arguments.parse record).value .home ≠ some "" := by
    rw [hunset]
    exact nofun
  obtain ⟨hhome, hline⟩ := (stated_home_iff hfound).1.2 hargument
  have hargs : (ServiceProfile.ofArguments (((Arguments.parse record).value .name).getD "")
      "C:\\Program Files\\resin" (Arguments.parse record)).argumentLine =
        "-service -name web -resin-home \"C:\\Program Files\\resin\"" := by decide +kernel
  rw [hargs] at hline
  exact ⟨hfound, hhome, hline⟩

/-- An empty argument for the home stands for none in the scan, and for an empty home in the
summary. -/
theorem stated_nowhere :
    let record := "C:\\r\\resin.exe -service -resin-home \"\""
    let disk : Disk := { tree := .empty, workDirectory := [] }
    homeOf? (HomeTest.byList ["C:\\r"] []) disk (Arguments.parse record) = some "C:\\r" ∧
      "home = C:\\r" ∉ recordLines record ∧ "home = " ∈ recordLines record := by
  intro record disk
  have hempty : (Arguments.parse record).value .home = some "" := by decide +kernel
  have hstated : statedHome (Arguments.parse record) = "" := statedHome_of_empty hempty
  have hunnamed : ((Arguments.parse record).value .home).filter (! ·.isEmpty) = none := by
    rw [hempty]
    decide
  refine ⟨homeOf?_of_listed hunnamed (by decide +kernel) disk, fun hmem ↦ ?_,
    mem_recordLines_iff.2 hstated⟩
  have hstated' : statedHome (Arguments.parse record) = "C:\\r" := mem_recordLines_iff.1 hmem
  exact absurd (hstated.symm.trans hstated') (by decide)

end Console

end ServerSetup
