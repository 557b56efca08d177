import ServerSetup.Proofs.CommandLine.ExeOffset
import ServerSetup.Proofs.ServiceManager.Update
import ServerSetup.Proofs.Windows.Machine
import ServerSetup.Proofs.Windows.Records

/-!
# Updating a service again and again

An update keeps the front of a record and writes the arguments behind it. The next update keeps the
same front, since nothing that stands behind it moves the cut (`executablePart?_append`), so the
arguments of earlier updates are replaced and do not pile up: after a run of updates the record is
the front of the first record with the arguments of the last profile (`updates_replace`).

`Updates` is a run of successful updates of one service, with the profiles that were entered.
Anything may happen between two of them, other services may be registered and calls may fail, as
long as the line of the service stays as it is. Of the records only this is used: a call that
succeeds shows the line and stores what is written (`ServiceRecords.Keeps`). The step is one update
(`line_of_install`), and the run follows by induction.
-/

namespace ServerSetup.ServiceManager

open CommandLine ServiceRecords

/-- Successful updates of a service, one after the other, with the profiles that were entered. Other
things may happen between them, as long as they leave the line of the service alone. -/
inductive Updates {η : Type} (m : ServiceManager η) (line : η → String → Option String)
    (service : String) (w : World η) : List ServiceProfile → World η → Prop
  | none : Updates m line service w [] w
  | update {ds d w₁ w'} (before : Updates m line service w ds w₁) (hname : d.name = service)
      (hinstall : m.install d false w₁ = (.ok (), w')) : Updates m line service w (ds ++ [d]) w'
  | meanwhile {ds w₁ w'} (before : Updates m line service w ds w₁)
      (hline : line w'.host service = line w₁.host service) : Updates m line service w ds w'

variable {η : Type} {m : ServiceManager η} {line : η → String → Option String} {service : String}
  {w w' : World η} {d : ServiceProfile} {ds : List ServiceProfile}

/-- **One update** writes the front of the line with the arguments of the profile. -/
theorem line_of_install (hkeeps : m.records.Keeps line) {record part : String}
    (hline : line w.host d.name = some record) (hpart : executablePart? record = some part)
    (h : m.install d false w = (.ok (), w')) :
    line w'.host d.name = some (part ++ " " ++ d.argumentLine) := by
  obtain ⟨-, found, w₁, updated, w₂, hrecord, hupdated, hset, rfl⟩ := install_eq_ok_iff.1 h
  have hfound : some found = some record := (hkeeps.shows hrecord).trans hline
  rw [ServiceProfile.updatedRecord, Option.some.inj hfound, hpart, Option.map_some,
    Option.some.injEq] at hupdated
  rw [← hupdated] at hset
  show line w₂.host d.name = _
  exact hkeeps.stores hset

/-- What a run of updates leaves is the first record, or its front with the last arguments. -/
theorem line_of_updates (hkeeps : m.records.Keeps line) {record part : String}
    (hline : line w.host service = some record) (hpart : executablePart? record = some part)
    (h : Updates m line service w ds w') :
    line w'.host service =
      some ((ds.getLast?.map (part ++ " " ++ ·.argumentLine)).getD record) := by
  -- the run grows at its end: the line that the last update finds is what the run before it left
  induction h with
  | none => exact hline
  | meanwhile before hsame ih => exact hsame.trans ih
  | @update ds d w₁ w₂ before hname hinstall ih =>
    subst hname
    rw [List.getLast?_concat, Option.map_some, Option.getD_some]
    -- in either form the line has the same front
    rcases hlast : ds.getLast? with - | last
    · rw [hlast] at ih
      exact line_of_install hkeeps ih hpart hinstall
    · rw [hlast] at ih
      exact line_of_install hkeeps ih (executablePart?_append hpart _) hinstall

/-- **Updates replace the arguments and never pile them up.** A record that contains `.exe` has a
front, which is cut between two characters, right behind the first `.exe` or the quote that closes
it. What an update makes of the record has the same front, whatever is written behind it. So after
any run of updates the line of the service is this front with the arguments of the last profile. -/
theorem updates_replace {record : String}
    (hexe : ['.', 'e', 'x', 'e'] <:+: record.toList.map Char.toLower) :
    ∃ stem rest part, CutBehindExe record stem rest ∧
      part = (if record.toList.head? = some '"' ∧ rest.toList.head? = some '"' then stem ++ "\""
        else stem) ∧
      executablePart record = .ok part ∧
      (∀ behind, executablePart (part ++ " " ++ behind) = .ok part) ∧
      ∀ {η : Type} (m : ServiceManager η) (line : η → String → Option String) (service : String)
        (w w' : World η) (ds : List ServiceProfile) (last : ServiceProfile),
        m.records.Keeps line → line w.host service = some record →
        Updates m line service w (ds ++ [last]) w' →
        line w'.host service = some (part ++ " " ++ last.argumentLine) := by
  obtain ⟨stem, rest, hcut⟩ := exists_cutBehindExe hexe
  have hpart := hcut.executablePart?_eq
  refine ⟨stem, rest, _, hcut, rfl, executablePart_eq_ok_iff.2 hpart,
    fun behind ↦ executablePart_eq_ok_iff.2 (executablePart?_append hpart behind), ?_⟩
  intro η m line service w w' ds last hkeeps hline hrun
  rw [line_of_updates hkeeps hline hpart hrun, List.getLast?_concat, Option.map_some,
    Option.getD_some]

/-- The management of the services of a Windows machine. -/
def ofRegistry : ServiceManager Windows.Machine where
  records := Windows.serviceRecords Windows.Machine.system.registry .localMachine Windows.recordsKey
  control := Windows.serviceControl Windows.Machine.system.services
  registrar := Windows.serviceRegistrar Windows.Machine.system 500
  store := ⟨"/state"⟩
  rollback := {}
  waiting := {}
  launcher := "resin.exe"
  patience := 0

/-- A Windows machine with the record of one service, and the calls that it has noted. -/
def worldWithRecord (record : String) (calls : List Windows.Call) : World Windows.Machine where
  disk := { tree := .empty, workDirectory := [] }
  environment := ⟨[]⟩
  host :=
    { registry := [(Windows.recordKey "web", [("ImagePath", record)])]
      calls := calls }

/-- An update in the registry reads the value with the record and sets it. -/
theorem install_ofRegistry (record updated : String) (calls : List Windows.Call)
    (hname : d.name = "web") (hupdated : d.updatedRecord record = some updated) :
    ofRegistry.install d false (worldWithRecord record calls) = (.ok (), worldWithRecord updated
      (calls ++ [.setValue (Windows.recordKey "web") "ImagePath" updated])) := by
  let w := worldWithRecord record calls
  let w' := worldWithRecord updated
    (calls ++ [.setValue (Windows.recordKey "web") "ImagePath" updated])
  have hread : ofRegistry.records.record "web" (w.entering "web" .installing) =
      (.ok (some record), w.entering "web" .installing) := rfl
  have hwrite : ofRegistry.records.setRecord "web" updated (w.entering "web" .installing) =
      (.ok (), w'.entering "web" .installing) := rfl
  have hleave : w' = (w'.entering "web" .installing).leaving "web" := rfl
  rw [← hname] at hread hwrite hleave
  exact install_eq_ok_iff.2 ⟨rfl, record, _, updated, _, hread, hupdated, hwrite, hleave⟩

/-- Two updates of a quoted path with letters that take two bytes; the arguments of the first have
another `.exe` and a quote that is left open. -/
theorem updates_replace_registry :
    let record := "\"C:\\Büro\\Résin.EXE\"-service -conf old.exe"
    let first : ServiceProfile :=
      { name := "web", home := "C:\\a.exe b", extraArguments := some "-J\"x.exe" }
    let last : ServiceProfile := { name := "web", home := "C:\\r" }
    let line (m : Windows.Machine) (service : String) : Option String :=
      Windows.Machine.view.textAt m (Windows.recordKey service) "ImagePath"
    ['.', 'e', 'x', 'e'] <:+: record.toList.map Char.toLower ∧
      ofRegistry.records.Keeps line ∧ ∃ w',
        Updates ofRegistry line "web" (worldWithRecord record []) [first, last] w' ∧
        line w'.host "web" =
          some "\"C:\\Büro\\Résin.EXE\" -service -name web -resin-home C:\\r" := by
  intro record first last line
  have hexe : ['.', 'e', 'x', 'e'] <:+: record.toList.map Char.toLower := by decide +kernel
  have hkeeps : ofRegistry.records.Keeps line :=
    Windows.keeps_serviceRecords Windows.Machine.registryLaws .localMachine Windows.recordsKey
  let front := "\"C:\\Büro\\Résin.EXE\" "
  have hfirst : ofRegistry.install first false (worldWithRecord record []) = (.ok (), _) :=
    install_ofRegistry record (front ++ first.argumentLine) [] rfl (by decide +kernel)
  have hlast : ofRegistry.install last false (worldWithRecord (front ++ first.argumentLine) _) =
      (.ok (), _) :=
    install_ofRegistry _ (front ++ last.argumentLine)
      [.setValue (Windows.recordKey "web") "ImagePath" (front ++ first.argumentLine)] rfl
      (by decide +kernel)
  have hrun : Updates ofRegistry line "web" (worldWithRecord record []) ([first] ++ [last]) _ :=
    (Updates.none.update rfl hfirst).update rfl hlast
  obtain ⟨stem, rest, part, -, -, hpart, -, hafter⟩ := updates_replace hexe
  have hexecutable : part = "\"C:\\Büro\\Résin.EXE\"" := by
    rw [executablePart_eq_ok_iff] at hpart
    have hsome : executablePart? record = some "\"C:\\Büro\\Résin.EXE\"" := by decide +kernel
    rw [hsome] at hpart
    exact (Option.some.inj hpart).symm
  refine ⟨hexe, hkeeps, _, hrun, ?_⟩
  rw [hafter ofRegistry line "web" _ _ [first] last hkeeps rfl hrun, hexecutable]
  decide +kernel

end ServerSetup.ServiceManager
