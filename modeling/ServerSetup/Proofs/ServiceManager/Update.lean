import ServerSetup.Proofs.Operation
import ServerSetup.Proofs.Profile.UpdatedRecord
import ServerSetup.Proofs.Rehearsal

/-!
# Updating the record of a service

What installing a service that is not new has done when it succeeds: it has read the record, and
written the front of the record with the argument line behind it (`install_eq_ok_iff`). From this
and from what is read in such records it follows when the service keeps its executable, and with it
its launcher (`launcher_kept`).

The first equivalence says everything that a successful update has asked for and done, so that
nothing behind this module opens the definition. The rest are facts about two records. What is read
from the front of a record is the executable of every updated record if the front is closed and
names it (`KeepsExecutable`). Where a quote is left open in the front, the arguments of some profile
close it and go on with another name. The one case in between is a quote that an update drops
because the record does not start with one (`ClosingQuoteKept`).
-/

namespace ServerSetup

open CommandLine ServiceProfile

namespace ServiceManager

variable {η : Type} {m : ServiceManager η} {d : ServiceProfile} {w w' : World η}

theorem executablePart_eq_ok_iff {record part : String} :
    executablePart record = .ok part ↔ executablePart? record = some part := by
  rw [executablePart]
  cases executablePart? record <;> simp

/-- Entering a profile in a record succeeds exactly if there is a record with an executable, and the
updated one can be written. -/
theorem enterRecord_eq_ok_iff : m.enterRecord d w = (.ok (), w') ↔
    ∃ record w₁ updated, m.records.record d.name w = (.ok (some record), w₁) ∧
      d.updatedRecord record = some updated ∧
        m.records.setRecord d.name updated w₁ = (.ok (), w') := by
  rw [enterRecord, SetupM.bind_eq_ok_iff]
  constructor
  · rintro ⟨found, w₁, hrecord, h⟩
    rw [SetupM.call_eq_ok_iff] at hrecord
    rcases found with - | record
    · exact absurd h SetupM.fail_ne_ok
    · obtain ⟨part, w₂, hcut, hset⟩ := SetupM.bind_eq_ok_iff.1 h
      obtain ⟨hpart, rfl⟩ := SetupM.ofExcept_eq_ok_iff.1 hcut
      refine ⟨record, w₁, part ++ " " ++ d.argumentLine, hrecord, ?_, SetupM.call_eq_ok_iff.1 hset⟩
      rw [updatedRecord, executablePart_eq_ok_iff.1 hpart, Option.map_some]
  · rintro ⟨record, w₁, updated, hrecord, hupdated, hset⟩
    obtain ⟨part, hpart, rfl⟩ := Option.map_eq_some_iff.1 hupdated
    refine ⟨some record, w₁, SetupM.call_eq_ok_iff.2 hrecord, SetupM.bind_eq_ok_iff.2 ?_⟩
    exact ⟨part, w₁, SetupM.ofExcept_eq_ok_iff.2 ⟨executablePart_eq_ok_iff.2 hpart, rfl⟩,
      SetupM.call_eq_ok_iff.2 hset⟩

/-- **An update reads the record of the service and writes the updated one**, and nothing else. -/
theorem install_eq_ok_iff : m.install d false w = (.ok (), w') ↔
    w.phases.of? d.name = none ∧ ∃ record w₁ updated w₂,
      m.records.record d.name (w.entering d.name .installing) = (.ok (some record), w₁) ∧
      d.updatedRecord record = some updated ∧
      m.records.setRecord d.name updated w₁ = (.ok (), w₂) ∧ w' = w₂.leaving d.name := by
  have hinstall : m.install d false = SetupM.inPhase d.name .installing (m.enterRecord d) := rfl
  rw [hinstall, SetupM.inPhase_eq_ok_iff]
  constructor
  · rintro ⟨hidle, w₂, hentered, hleft⟩
    obtain ⟨record, w₁, updated, hrecord, hupdated, hset⟩ := enterRecord_eq_ok_iff.1 hentered
    exact ⟨hidle, record, w₁, updated, w₂, hrecord, hupdated, hset, hleft⟩
  · rintro ⟨hidle, record, w₁, updated, w₂, hrecord, hupdated, hset, hleft⟩
    exact ⟨hidle, w₂, enterRecord_eq_ok_iff.2 ⟨record, w₁, updated, hrecord, hupdated, hset⟩, hleft⟩

/-! ### The executable of an updated service -/

/-- A quote right behind the first `.exe` is kept by an update: the record starts with one. -/
def ClosingQuoteKept (record : String) : Prop :=
  ∀ exe rest, cutAfterExe record.toList = some (exe, rest) → rest.head? = some '"' →
    record.toList.head? = some '"'

/-- **When an update keeps the executable of a managed service.** If the front that is kept of its
record is closed and reads as its executable, then whatever the profile and the host are, a
successful update writes a record with the same executable, which the same launcher recognises as a
service. Unless the update drops a closing quote, there is no other case in which every update keeps
the executable. -/
theorem launcher_kept {record launcher : String} {args : Arguments}
    (hmanaged : launcherArguments? record launcher = some args) :
    (KeepsExecutable record → ∀ {η : Type} (m : ServiceManager η) (d : ServiceProfile)
        (w w₁ w' : World η), d.Enterable →
      m.records.record d.name (w.entering d.name .installing) = (.ok (some record), w₁) →
      m.install d false w = (.ok (), w') →
      ∃ updated w₂, d.updatedRecord record = some updated ∧
        m.records.setRecord d.name updated w₁ = (.ok (), w₂) ∧ w' = w₂.leaving d.name ∧
        (Arguments.parse updated).value .exe = args.value .exe ∧
        ∃ args', launcherArguments? updated launcher = some args' ∧ args'.service = true) ∧
    (ClosingQuoteKept record →
      (∀ d : ServiceProfile, d.Enterable → ∀ updated ∈ d.updatedRecord record,
        (Arguments.parse updated).value .exe = args.value .exe) → KeepsExecutable record) := by
  obtain ⟨rfl, exe, hexe, hlauncher⟩ := launcherArguments?_eq_some_iff.1 hmanaged
  refine ⟨?_, fun _ h ↦ forall_value_exe_iff.1 h⟩
  intro hkeeps η m d w w₁ w' hd hrecord hinstall
  obtain ⟨-, record', w₁', updated, w₂, hrecord', hupdated, hset, hleft⟩ :=
    install_eq_ok_iff.1 hinstall
  rw [hrecord] at hrecord'
  cases hrecord'
  have hkept : (Arguments.parse updated).value .exe = (Arguments.parse record).value .exe :=
    forall_value_exe_iff.2 hkeeps d hd updated hupdated
  refine ⟨updated, w₂, hupdated, hset, hleft, hkept, Arguments.parse updated, ?_, ?_⟩
  · exact launcherArguments?_eq_some_iff.2 ⟨rfl, exe, hkept.trans hexe, hlauncher⟩
  · obtain ⟨part, hpart, rfl⟩ := Option.map_eq_some_iff.1 hupdated
    exact (value_exe_append hpart (hkeeps part hpart).2 hd).2

/-- An update behind a quoted path with a blank character in it. -/
theorem launcher_kept_quoted :
    let record := "\"C:\\Program Files\\resin\\Resin.exe\" -service -server \"a b\" -exe"
    KeepsExecutable record ∧ ∃ updated w',
      Rehearsal.manager.install sample false (Rehearsal.worldWith [("resin web", some record)]) =
        (.ok (), w') ∧
      sample.updatedRecord record = some updated ∧
      (Arguments.parse updated).value .exe = some "C:\\Program Files\\resin\\Resin.exe" := by
  intro record
  have hkeeps : KeepsExecutable record := by decide +kernel
  have hexe : (Arguments.parse record).value .exe = some "C:\\Program Files\\resin\\Resin.exe" := by
    decide +kernel
  have hmanaged : launcherArguments? record "resin.exe" = some (Arguments.parse record) :=
    launcherArguments?_eq_some_iff.2 ⟨rfl, _, hexe, by decide⟩
  obtain ⟨updated, hupdated⟩ : ∃ updated, sample.updatedRecord record = some updated := by
    refine Option.isSome_iff_exists.1 ?_
    decide +kernel
  let w := Rehearsal.worldWith [("resin web", some record)]
  have hrecord : Rehearsal.manager.records.record sample.name (w.entering sample.name .installing) =
      (.ok (some record), w.entering sample.name .installing) := rfl
  have hinstall : Rehearsal.manager.install sample false w = (.ok (), _) :=
    install_eq_ok_iff.2 ⟨rfl, record, _, updated, _, hrecord, hupdated, rfl, rfl⟩
  obtain ⟨updated', -, hupdated', -, -, hkept, -⟩ :=
    (launcher_kept hmanaged).1 hkeeps _ sample w _ _ writable_sample.enterable hrecord hinstall
  exact ⟨hkeeps, updated', _, hinstall, hupdated', hkept.trans hexe⟩

/-- A directory whose name contains `.exe`: the update cuts the path there, and the launcher does
not recognise the record any more. -/
theorem launcher_lost_behind_directory :
    let record := "C:\\apps.exe.d\\resin.exe -service -resin-home C:\\r"
    let d : ServiceProfile := { name := "web", home := "C:\\r" }
    (∃ args, launcherArguments? record "resin.exe" = some args ∧ args.service = true ∧
        args.value .exe = some "C:\\apps.exe.d\\resin.exe") ∧
      d.Enterable ∧ ∃ updated w',
        Rehearsal.manager.install d false (Rehearsal.worldWith [("web", some record)]) =
          (.ok (), w') ∧
        w'.host.services.lookup "web" = some (some updated) ∧
        (Arguments.parse updated).value .exe = some "C:\\apps.exe" ∧
        launcherArguments? updated "resin.exe" = none := by
  intro record d
  have hexe : (Arguments.parse record).value .exe = some "C:\\apps.exe.d\\resin.exe" := by
    decide +kernel
  have hmanaged : launcherArguments? record "resin.exe" = some (Arguments.parse record) :=
    launcherArguments?_eq_some_iff.2 ⟨rfl, _, hexe, by decide⟩
  have hd : d.Enterable := {
    name := by decide
    home := by decide
    confFile := by simp [d]
    rootDirectory := by simp [d]
    logDirectory := by simp [d]
    server := by simp [d]
    extra := by simp [d, extraText] }
  let updated := "C:\\apps.exe -service -name web -resin-home C:\\r"
  have hupdated : d.updatedRecord record = some updated := by decide +kernel
  have hinstall : Rehearsal.manager.install d false
      (Rehearsal.worldWith [("web", some record)]) = (.ok (), _) :=
    install_eq_ok_iff.2 ⟨rfl, record, _, updated, _, rfl, hupdated, rfl, rfl⟩
  refine ⟨⟨_, hmanaged, by decide +kernel, hexe⟩, hd, updated, _, hinstall, rfl, ?_, ?_⟩
  · decide +kernel
  · refine Option.isNone_iff_eq_none.1 ?_
    decide +kernel

end ServiceManager

end ServerSetup
