import ServerSetup.Proofs.Json.Forms
import ServerSetup.Settings.Document

/-!
# Settings that override the defaults

A settings file gives values for some of the fields (`Settings.Assignment`) and leaves out the
others. However it is written, with the sections and their fields in any order and with further
members that mean nothing to the tool, what is loaded are the defaults with these fields replaced
(`Settings.load_of_writes`). Each section is read apart from the others, so that a new field changes
one reader only.

What counts as a way to write a settings file is said by relations between values and bytes
(`WritesRecord` and the relations for the kinds of fields), which know nothing of the reader. They
leave free the order of the members, white space, the escapes inside quotes and the members beside
those that are assigned; what they do not allow is the name of a field twice.

A section has a structure of optional values, the function that puts them in place of the defaults
(`applyTo`), and its list of fields with their names and kinds (`fields`). The lemma `reads` of a
section connects the two. It follows from the lemmas for the kinds of fields by way of
`Json.WritesRecord.read`, which finds each field by its name among the members; the settings as a
whole are one more record, whose fields are the sections.
-/

namespace ServerSetup

open Json

/-! ### The kinds of fields -/

namespace Json

theorem reads_strings : Reads (WritesList WritesString) (list? string?) id := by
  have h := reads_string.list
  rwa [List.map_id_fun] at h

theorem reads_uint32 :
    Reads (fun n : UInt32 ↦ WritesNat n.toNat) (nat? 0xFFFFFFFF) UInt32.toNat :=
  reads_nat fun n ↦ Nat.le_of_lt_succ n.toNat_lt

theorem reads_uint64 :
    Reads (fun n : UInt64 ↦ WritesNat n.toNat) (nat? 0xFFFFFFFFFFFFFFFF) UInt64.toNat :=
  reads_nat fun n ↦ Nat.le_of_lt_succ n.toNat_lt

/-- The forms of a number that may be missing. -/
abbrev WritesOptionalUInt64 : Option UInt64 → Source → Prop :=
  WritesNullable fun n ↦ WritesNat n.toNat

theorem reads_optionalUInt64 : Reads WritesOptionalUInt64
    (nullable? fun s ↦ (nat? 0xFFFFFFFFFFFFFFFF s).map UInt64.ofNat) id := by
  have h := (reads_uint64.map UInt64.ofNat).nullable (by rw [bytesOf_null]; rfl)
  simp only [UInt64.ofNat_toNat] at h
  rwa [Option.map_id_fun'] at h

end Json

/-! ### Sections -/

/-- Values for some of the fields that say how installations are recognised. -/
structure ProductSettings.Assignment where
  directoryStart : Option String := none
  containerMark : Option String := none
  launcher : Option String := none
  rootMarkers : Option (List String) := none
  recordedHomeKey : Option String := none
  recordedHomeValue : Option String := none

namespace ProductSettings.Assignment

/-- The section with the assigned fields replaced. -/
def applyTo (a : Assignment) (s : ProductSettings) : ProductSettings where
  directoryStart := a.directoryStart.getD s.directoryStart
  containerMark := a.containerMark.getD s.containerMark
  launcher := a.launcher.getD s.launcher
  rootMarkers := a.rootMarkers.getD s.rootMarkers
  recordedHomeKey := a.recordedHomeKey.getD s.recordedHomeKey
  recordedHomeValue := a.recordedHomeValue.getD s.recordedHomeValue

/-- The fields with the forms of their values. -/
def fields (a : Assignment) : List Field :=
  [.of "dir_prefix" WritesString a.directoryStart,
    .of "container_marker" WritesString a.containerMark,
    .of "launcher" WritesString a.launcher,
    .of "root_markers" (WritesList WritesString) a.rootMarkers,
    .of "current_home_key" WritesString a.recordedHomeKey,
    .of "current_home_value" WritesString a.recordedHomeValue]

/-- A section is read as the defaults with the assigned fields replaced. -/
theorem reads : Reads (fun a ↦ WritesRecord (fields a)) ofJson? (applyTo · {}) := by
  intro a bytes h
  have hreadable : ∀ f ∈ fields a, f.Readable := by
    simp only [fields, List.forall_mem_cons, List.not_mem_nil, false_implies, implies_true,
      and_true, reads_string.readable, reads_strings.readable]
  obtain ⟨hvalue, found, hrecord, hfound⟩ := h.read ["dir_prefix", "container_marker", "launcher",
    "root_markers", "current_home_key", "current_home_value"] rfl (by decide) hreadable
  obtain _ | ⟨hstart, _ | ⟨hmark, _ | ⟨hlauncher, _ | ⟨hmarkers, _ | ⟨hkey, _ | ⟨hhome, _ | _⟩⟩⟩⟩⟩⟩
    := hfound
  refine ⟨hvalue, ?_⟩
  simp only [ofJson?, hrecord, Option.bind_eq_bind, Option.bind_some, Option.pure_def,
    reads_string.given_eq hstart, reads_string.given_eq hmark, reads_string.given_eq hlauncher,
    reads_strings.given_eq hmarkers, reads_string.given_eq hkey, reads_string.given_eq hhome,
    Option.map_id_fun, id_eq, applyTo]

end ProductSettings.Assignment

/-- Values for some of the fields about the web filter. -/
structure FilterSettings.Assignment where
  name : Option String := none
  binary : Option String := none
  description : Option String := none
  platformDirectory : Option String := none
  loadedState : Option UInt32 := none
  adminScript : Option (Option String) := none

namespace FilterSettings.Assignment

/-- The section with the assigned fields replaced. -/
def applyTo (a : Assignment) (s : FilterSettings) : FilterSettings where
  name := a.name.getD s.name
  binary := a.binary.getD s.binary
  description := a.description.getD s.description
  platformDirectory := a.platformDirectory.getD s.platformDirectory
  loadedState := a.loadedState.getD s.loadedState
  adminScript := a.adminScript.getD s.adminScript

/-- The fields with the forms of their values. -/
def fields (a : Assignment) : List Field :=
  [.of "name" WritesString a.name,
    .of "binary" WritesString a.binary,
    .of "description" WritesString a.description,
    .of "platform_subdir" WritesString a.platformDirectory,
    .of "loaded_state" (fun n : UInt32 ↦ WritesNat n.toNat) a.loadedState,
    .of "adsutil_script" WritesOptionalString a.adminScript]

theorem reads : Reads (fun a ↦ WritesRecord (fields a)) ofJson? (applyTo · {}) := by
  intro a bytes h
  have hreadable : ∀ f ∈ fields a, f.Readable := by
    simp only [fields, List.forall_mem_cons, List.not_mem_nil, false_implies, implies_true,
      and_true, reads_string.readable, reads_uint32.readable, reads_optionalString.readable]
  obtain ⟨hvalue, found, hrecord, hfound⟩ := h.read ["name", "binary", "description",
    "platform_subdir", "loaded_state", "adsutil_script"] rfl (by decide) hreadable
  obtain _ | ⟨hname, _ | ⟨hbinary, _ | ⟨htext, _ | ⟨hsubdir, _ | ⟨hstate, _ | ⟨hscript, _ | _⟩⟩⟩⟩⟩⟩
    := hfound
  refine ⟨hvalue, ?_⟩
  simp only [ofJson?, hrecord, Option.bind_eq_bind, Option.bind_some, Option.pure_def,
    reads_string.given_eq hname, reads_string.given_eq hbinary, reads_string.given_eq htext,
    reads_string.given_eq hsubdir, reads_uint32.given_eq hstate,
    reads_optionalString.given_eq hscript, Option.getD_map, UInt32.ofNat_toNat, Option.map_id_fun,
    id_eq, applyTo]

end FilterSettings.Assignment

/-- Values for some of the fields about rollback states. -/
structure RollbackSettings.Assignment where
  keepStates : Option Bool := none
  readStates : Option Bool := none
  standIn : Option Bool := none
  stateDirectory : Option (Option String) := none

namespace RollbackSettings.Assignment

/-- The section with the assigned fields replaced. -/
def applyTo (a : Assignment) (s : RollbackSettings) : RollbackSettings where
  keepStates := a.keepStates.getD s.keepStates
  readStates := a.readStates.getD s.readStates
  standIn := a.standIn.getD s.standIn
  stateDirectory := a.stateDirectory.getD s.stateDirectory

/-- The fields with the forms of their values. -/
def fields (a : Assignment) : List Field :=
  [.of "persist" WritesBool a.keepStates,
    .of "load_persisted" WritesBool a.readStates,
    .of "synthetic_default" WritesBool a.standIn,
    .of "state_dir" WritesOptionalString a.stateDirectory]

theorem reads : Reads (fun a ↦ WritesRecord (fields a)) ofJson? (applyTo · {}) := by
  intro a bytes h
  have hreadable : ∀ f ∈ fields a, f.Readable := by
    simp only [fields, List.forall_mem_cons, List.not_mem_nil, false_implies, implies_true,
      and_true, reads_bool.readable, reads_optionalString.readable]
  obtain ⟨hvalue, found, hrecord, hfound⟩ := h.read ["persist", "load_persisted",
    "synthetic_default", "state_dir"] rfl (by decide) hreadable
  obtain _ | ⟨hkeep, _ | ⟨hread, _ | ⟨hstandIn, _ | ⟨hdirectory, _ | _⟩⟩⟩⟩ := hfound
  refine ⟨hvalue, ?_⟩
  simp only [ofJson?, hrecord, Option.bind_eq_bind, Option.bind_some, Option.pure_def,
    reads_bool.given_eq hkeep, reads_bool.given_eq hread, reads_bool.given_eq hstandIn,
    reads_optionalString.given_eq hdirectory, Option.map_id_fun, id_eq, applyTo]

end RollbackSettings.Assignment

/-- Values for some of the fields about waiting. -/
structure WaitSettings.Assignment where
  pollIntervalMs : Option UInt64 := none
  timeoutSecs : Option (Option UInt64) := none

namespace WaitSettings.Assignment

/-- The section with the assigned fields replaced. -/
def applyTo (a : Assignment) (s : WaitSettings) : WaitSettings where
  pollIntervalMs := a.pollIntervalMs.getD s.pollIntervalMs
  timeoutSecs := a.timeoutSecs.getD s.timeoutSecs

/-- The fields with the forms of their values. -/
def fields (a : Assignment) : List Field :=
  [.of "poll_interval_ms" (fun n : UInt64 ↦ WritesNat n.toNat) a.pollIntervalMs,
    .of "transition_timeout_secs" WritesOptionalUInt64 a.timeoutSecs]

theorem reads : Reads (fun a ↦ WritesRecord (fields a)) ofJson? (applyTo · {}) := by
  intro a bytes h
  have hreadable : ∀ f ∈ fields a, f.Readable := by
    simp only [fields, List.forall_mem_cons, List.not_mem_nil, false_implies, implies_true,
      and_true, reads_uint64.readable, reads_optionalUInt64.readable]
  obtain ⟨hvalue, found, hrecord, hfound⟩ := h.read ["poll_interval_ms", "transition_timeout_secs"]
    rfl (by decide) hreadable
  obtain _ | ⟨hpause, _ | ⟨htimeout, _ | _⟩⟩ := hfound
  refine ⟨hvalue, ?_⟩
  simp only [ofJson?, hrecord, Option.bind_eq_bind, Option.bind_some, Option.pure_def,
    reads_uint64.given_eq hpause, reads_optionalUInt64.given_eq htimeout, Option.getD_map,
    UInt64.ofNat_toNat, Option.map_id_fun, id_eq, applyTo]

end WaitSettings.Assignment

/-! ### Files -/

/-- Values for some of the settings: sections, and in them some of their fields. -/
structure Settings.Assignment where
  product : Option ProductSettings.Assignment := none
  filter : Option FilterSettings.Assignment := none
  rollback : Option RollbackSettings.Assignment := none
  waiting : Option WaitSettings.Assignment := none

namespace Settings

namespace Assignment

/-- The settings with the assigned fields replaced. -/
def applyTo (a : Assignment) (s : Settings) : Settings where
  product := (a.product.map (·.applyTo s.product)).getD s.product
  filter := (a.filter.map (·.applyTo s.filter)).getD s.filter
  rollback := (a.rollback.map (·.applyTo s.rollback)).getD s.rollback
  waiting := (a.waiting.map (·.applyTo s.waiting)).getD s.waiting

/-- The sections with their forms. -/
def fields (a : Assignment) : List Field :=
  [.of "product" (fun s ↦ WritesRecord s.fields) a.product,
    .of "filter" (fun s ↦ WritesRecord s.fields) a.filter,
    .of "rollback" (fun s ↦ WritesRecord s.fields) a.rollback,
    .of "control" (fun s ↦ WritesRecord s.fields) a.waiting]

theorem reads : Reads (fun a ↦ WritesRecord (fields a)) ofJson? (applyTo · {}) := by
  intro a bytes h
  have hreadable : ∀ f ∈ fields a, f.Readable := by
    simp only [fields, List.forall_mem_cons, List.not_mem_nil, false_implies, implies_true,
      and_true, ProductSettings.Assignment.reads.readable, FilterSettings.Assignment.reads.readable,
      RollbackSettings.Assignment.reads.readable, WaitSettings.Assignment.reads.readable]
  obtain ⟨hvalue, found, hrecord, hfound⟩ := h.read ["product", "filter", "rollback", "control"] rfl
    (by decide) hreadable
  obtain _ | ⟨hproduct, _ | ⟨hfilter, _ | ⟨hrollback, _ | ⟨hwaiting, _ | _⟩⟩⟩⟩ := hfound
  refine ⟨hvalue, ?_⟩
  simp only [ofJson?, hrecord, Option.bind_eq_bind, Option.bind_some, Option.pure_def,
    ProductSettings.Assignment.reads.given_eq hproduct,
    FilterSettings.Assignment.reads.given_eq hfilter,
    RollbackSettings.Assignment.reads.given_eq hrollback,
    WaitSettings.Assignment.reads.given_eq hwaiting, applyTo]

/-- The forms of a settings file: an object with the sections, and spaces around it. -/
def Writes (a : Assignment) (bytes : List UInt8) : Prop :=
  ∃ item : Spaced, WritesRecord a.fields item.bytes ∧ bytes = item.text

end Assignment

variable {disk : Disk} {path : String} {bytes : List UInt8} {a : Assignment}

/-- However a settings file is written, it is read as the defaults with the assigned fields
replaced. -/
theorem ofBytes?_of_writes (h : a.Writes bytes) : ofBytes? bytes = some (a.applyTo {}) := by
  obtain ⟨item, hitem, rfl⟩ := h
  obtain ⟨hvalue, hread⟩ := Assignment.reads hitem
  rw [ofBytes?, document?_text hvalue, Option.bind_some, hread]

/-- **A settings file overrides exactly what it names.** In whatever way it gives some of the
settings, the defaults are loaded with these settings replaced. -/
theorem load_of_writes (hread : disk.read path = .ok bytes) (h : a.Writes bytes) :
    load disk path = .ok (a.applyTo {}) := by
  rw [load, hread]
  dsimp only
  rw [ofBytes?_of_writes h]

/-! ### A settings file -/

/-- A file that sets the pause, with a further member in front, and with an escape in the name of
the section. -/
def sampleBytes : List UInt8 := Text.bytesOf
  "\x7b\"notes\":[-0.5, \x7b\x7d] ,\"\\u0063ontrol\": \x7b\"poll_interval_ms\":5\x7d\x7d\n"

/-- What the file assigns. -/
def sample : Assignment := { waiting := some { pollIntervalMs := some 5 } }

/-- A disk with the file. -/
def sampleDisk : Disk where
  tree := ⟨[(["setup-config.json"], .file sampleBytes)]⟩
  workDirectory := []

/-- A number and an empty object. -/
def sampleItems : List Spaced :=
  [.bare (Text.bytesOf "-0.5"),
    ⟨[0x20], Text.bytesOf "\x7b\x7d", [], isSpace_blank, isSpace_nil⟩]

/-- The one member of the section. -/
def sampleFields : List Member :=
  [⟨.bare (Text.bytesOf "\"poll_interval_ms\""), .bare (Text.bytesOf "5")⟩]

/-- The members of the file. -/
def sampleMembers : List Member :=
  [⟨.bare (Text.bytesOf "\"notes\""),
      ⟨[], 0x5B :: (separated sampleItems ++ [0x5D]), [0x20], isSpace_nil, isSpace_blank⟩⟩,
    ⟨.bare (Text.bytesOf "\"\\u0063ontrol\""),
      ⟨[0x20], 0x7B :: (separated (sampleFields.map Member.item) ++ [0x7D]), [], isSpace_blank,
        isSpace_nil⟩⟩]

/-- A member of the sample that means nothing to the tool is a JSON value. -/
theorem valueText_sampleItems : ValueText (0x5B :: (separated sampleItems ++ [0x5D])) := by
  have hnumber : NumberText (Text.bytesOf "-0.5") :=
    (by decide +kernel : [0x2D] ++ [0x30] ++ (0x2E :: [0x35] ++ []) = Text.bytesOf "-0.5") ▸
      .parts (.inr rfl) .zero (.point ⟨List.cons_ne_nil _ _, List.forall_mem_singleton.2 rfl⟩) .none
  have hobject : IsObject [] (Text.bytesOf "\x7b\x7d") :=
    (by decide +kernel : 0x7B :: ([] ++ [0x7D]) = Text.bytesOf "\x7b\x7d") ▸
      .empty (List.forall_mem_nil _)
  refine .array (.items (List.cons_ne_nil _ _)) (List.forall_mem_cons.2 ⟨.number hnumber,
    List.forall_mem_singleton.2 ?_⟩)
  exact .object hobject (List.forall_mem_nil _) (List.forall_mem_nil _)

/-- A name without escapes is written as it is. -/
theorem writesString_of_eq {s : String} {bytes : List UInt8} (h : quoted (innerBytes s) = bytes) :
    WritesString s bytes := h ▸ writesString_quoted s

/-- The bytes of the sample write the assignment. -/
theorem sample_writes : sample.Writes sampleBytes := by
  have hnotes : ∀ m ∈ [("notes", 0x5B :: (separated sampleItems ++ [0x5D]))],
      m.1 ∉ sample.fields.map Field.name ∧ ValueText m.2 :=
    List.forall_mem_singleton.2 ⟨by decide, valueText_sampleItems⟩
  have hcontrol : WritesString "control" (Text.bytesOf "\"\\u0063ontrol\"") :=
    ⟨"\\u0063".toList ++ "ontrol".toList.flatMap escapeChar,
      .cons (.number (by decide)) (spells_escaped _), by decide +kernel⟩
  have hfive : WritesNat (5 : UInt64).toNat (Text.bytesOf "5") := rfl
  have hfield : WritesRecord (WaitSettings.Assignment.fields { pollIntervalMs := some 5 })
      (0x7B :: (separated (sampleFields.map Member.item) ++ [0x7D])) := by
    refine .object (.cons hfive (.without .nil)) (List.forall_mem_nil _) (.refl _) ?_
      (.members (List.cons_ne_nil _ _))
    exact .cons ⟨writesString_of_eq (by decide +kernel), rfl⟩ .nil
  refine ⟨⟨[], 0x7B :: (separated (sampleMembers.map Member.item) ++ [0x7D]), [0x0A],
    List.forall_mem_nil _, List.forall_mem_singleton.2 rfl⟩, ?_, by decide +kernel⟩
  refine .object (.without (.without (.without (.cons hfield .nil)))) hnotes (.swap _ _ _) ?_
    (.members (List.cons_ne_nil _ _))
  exact .cons ⟨writesString_of_eq (by decide +kernel), rfl⟩ (.cons ⟨hcontrol, rfl⟩ .nil)

/-- What is loaded from the sample are the defaults with the pause replaced. -/
theorem load_sample : sampleDisk.read "/setup-config.json" = .ok sampleBytes ∧
    sample.Writes sampleBytes ∧
    load sampleDisk "/setup-config.json" = .ok { waiting := { pollIntervalMs := 5 } } := by
  have hwalk : sampleDisk.tree.walk true FileTree.maxLinks [] ["setup-config.json"] =
      .ok ["setup-config.json"] := by
    rw [FileTree.walk, if_neg (by decide), if_neg (by decide), if_neg (by decide),
      if_neg (by decide)]
    show sampleDisk.tree.walk true FileTree.maxLinks ["setup-config.json"] [] = _
    rw [FileTree.walk]
  have hread : sampleDisk.read "/setup-config.json" = .ok sampleBytes := by
    have hlocate : sampleDisk.locate "/setup-config.json" = .ok ["setup-config.json"] := hwalk
    rw [Disk.read, hlocate]
    rfl
  exact ⟨hread, sample_writes, load_of_writes hread sample_writes⟩

end Settings

end ServerSetup
