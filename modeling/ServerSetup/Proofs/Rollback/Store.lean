import ServerSetup.Proofs.Disk.Directory
import ServerSetup.Proofs.Rollback.Document
import ServerSetup.Rollback.Store

/-!
# What a store keeps

What is loaded is told by what reading the file gives (`load_eq`). A store whose file operations
succeed has for each service the state on file that was saved last and not removed since, and
nothing else (`Filed`). This holds as well as long as the directory of the store is not made yet.
What is on file is kept if it can be read back, too (`Keeps`).

The three operations are given as equations and equivalences first (`save_eq`, `save_eq_ok_iff`,
`load_eq`), so that nothing behind this module opens their definitions. Each has then one lemma
about what is on file. `Filed` is the invariant: the files in the directory are the documents of the
states, and there is no file for a service without one. A state of a later format may be on file as
well, written by another version of the tool; loading it is an error that names the format
(`loaded`).

Names need some care. A service without a slash in its name has a file and a temporary file directly
in the directory, and the temporary file of a service is never the file of another one
(`fileName_ne_temporaryName`), since the endings differ.
-/

namespace ServerSetup

/-- What reading a file gives. -/
abbrev FileReading := Except IoKind (List UInt8)

namespace Rollback

/-- A state that can be read back: its moment is one, and its format is understood. -/
structure State.Readable (state : State) : Prop where
  recordedAt : state.recordedAt.Valid
  version : ¬ State.currentVersion < state.schemaVersion

/-- A state can be read back if its moment is one and its format is not a later one. -/
theorem State.readable_iff {state : State} : state.Readable ↔
    state.recordedAt.Valid ∧ ¬ State.currentVersion < state.schemaVersion :=
  ⟨fun h ↦ ⟨h.recordedAt, h.version⟩, fun h ↦ ⟨h.1, h.2⟩⟩

instance (state : State) : Decidable state.Readable := decidable_of_iff' _ State.readable_iff

namespace Store

variable {store : Store} {service other : String} {state : State} {disk disk' : Disk}

/-! ### The names of the files -/

/-- The name of the file of a service. -/
def fileName (service : String) : String := service ++ ".srv"

/-- The name of the temporary file beside it. -/
def temporaryName (service : String) : String :=
  fileName service ++ if service = "" then ".srv.tmp" else ".tmp"

/-- A service that is no path makes the name of a file with an ending that is long enough. -/
theorem isFileName_append {ending : String} (hservice : '/' ∉ service.toList)
    (hending : 2 < ending.toList.length ∧ '/' ∉ ending.toList) :
    Path.IsFileName (service ++ ending) := by
  have hlength : 2 < (service ++ ending).toList.length := by
    rw [String.toList_append, List.length_append]
    omega
  refine ⟨?_, ?_, ?_, ?_⟩
  · intro h
    rw [h] at hlength
    cases hlength
  · rw [String.toList_append, List.mem_append]
    exact fun h ↦ h.elim hservice hending.2
  · intro h
    rw [h] at hlength
    exact absurd hlength (by decide)
  · intro h
    rw [h] at hlength
    exact absurd hlength (by decide)

/-- The name of the file of a service is one if the service is no path. -/
theorem isFileName_fileName (h : '/' ∉ service.toList) : Path.IsFileName (fileName service) :=
  isFileName_append h (by decide)

theorem isFileName_temporaryName (h : '/' ∉ service.toList) :
    Path.IsFileName (temporaryName service) := by
  rw [temporaryName, fileName, String.append_assoc]
  split
  · exact isFileName_append h (by decide)
  · exact isFileName_append h (by decide)

theorem fileName_inj : fileName service = fileName other ↔ service = other := by
  rw [fileName, fileName, ← String.toList_inj, String.toList_append, String.toList_append,
    List.append_cancel_right_eq, String.toList_inj]

/-- A temporary file is the file of no service. -/
theorem fileName_ne_temporaryName : fileName other ≠ temporaryName service := by
  intro h
  have hlast := congrArg (fun name : String ↦ name.toList.getLast?) h
  rw [fileName, temporaryName] at hlast
  split at hlast <;> simp at hlast

/-- The temporary file stands in the directory if the service is no path. -/
theorem temporaryPath_path (h : '/' ∉ service.toList) :
    temporaryPath (store.path service) = Path.join store.directory (temporaryName service) := by
  have hname := isFileName_fileName h
  have hempty : (fileName service).toList = ".srv".toList ↔ service = "" := by
    rw [String.toList_inj]
    exact (fileName_inj : fileName service = fileName "" ↔ service = "")
  have hpath : store.path service = Path.join store.directory (fileName service) := rfl
  simp only [temporaryPath, hpath, Path.lastName_join hname, hempty, temporaryName,
    ← Path.join_append hname]
  split <;> rfl

/-! ### Operations of the store -/

/-- Reporting an error with a path does nothing to the disk. -/
theorem onFile_eq {α : Type} (path : String) (op : DiskM α) :
    onFile path op = fun disk ↦ ((op disk).1.mapError (.io path), (op disk).2) := by
  funext disk
  rw [onFile]
  rcases op disk with ⟨kind | a, disk'⟩ <;> rfl

/-- It does nothing to a success, either. -/
theorem onFile_eq_ok_iff {α : Type} {path : String} {op : DiskM α} {a : α} :
    onFile path op disk = (.ok a, disk') ↔ op disk = (.ok a, disk') := by
  rw [onFile]
  rcases op disk with ⟨kind | b, disk₁⟩
  · constructor
    · intro h
      cases h
    · intro h
      cases h
  · constructor
    · intro h
      cases h
      rfl
    · intro h
      cases h
      rfl

/-- Discarding a file after a failure does not turn it into a success. -/
theorem tryDiscard_eq_ok_iff {op : StoreM Unit} {path : String} :
    (tryCatch op fun e ↦ do discard path; throw e) disk = (.ok (), disk') ↔
      op disk = (.ok (), disk') := by
  rw [StateExcept.tryCatch_eq]
  rcases op disk with ⟨e | ⟨⟩, disk₁⟩
  · constructor
    · intro h
      cases h
    · intro h
      cases h
  · exact Iff.rfl

/-- **What saving does,** step by step: behind a failure the temporary file is given up. -/
theorem save_eq : store.save state disk =
    match Disk.ensureDirectory store.directory disk with
    | (.error kind, disk) => (.error (.io store.directory kind), disk)
    | (.ok (), disk) =>
      let path := store.path state.serviceName
      let temporary := temporaryPath path
      match Disk.write temporary (Text.bytesOf state.document) disk with
      | (.error kind, disk) => (.error (.io temporary kind), (Disk.remove temporary disk).2)
      | (.ok (), disk) =>
        match Disk.rename temporary path disk with
        | (.error kind, disk) => (.error (.io path kind), (Disk.remove temporary disk).2)
        | (.ok (), disk) => (.ok path, disk) := by
  rw [save, StateExcept.bind_eq, onFile]
  rcases Disk.ensureDirectory store.directory disk with ⟨kind | ⟨⟩, disk₁⟩
  · rfl
  · dsimp only
    rw [StateExcept.bind_eq, StateExcept.tryCatch_eq, onFile]
    rcases Disk.write _ _ disk₁ with ⟨kind | ⟨⟩, disk₂⟩
    · rfl
    · dsimp only
      rw [StateExcept.bind_eq, StateExcept.tryCatch_eq, onFile]
      rcases Disk.rename _ _ disk₂ with ⟨kind | ⟨⟩, disk₃⟩
      · rfl
      · rfl

/-- A state is saved exactly if it can be written to the temporary file, and this takes the place of
the file. -/
theorem save_eq_ok_iff {path : String} : store.save state disk = (.ok path, disk') ↔
    path = store.path state.serviceName ∧
    ∃ disk₁ disk₂, Disk.ensureDirectory store.directory disk = (.ok (), disk₁) ∧
      Disk.write (temporaryPath (store.path state.serviceName)) (Text.bytesOf state.document)
        disk₁ = (.ok (), disk₂) ∧
      Disk.rename (temporaryPath (store.path state.serviceName)) (store.path state.serviceName)
        disk₂ = (.ok (), disk') := by
  constructor
  · intro h
    obtain ⟨⟨⟩, disk₁, hensure, h⟩ := StateExcept.bind_eq_ok_iff.1 h
    obtain ⟨⟨⟩, disk₂, hwrite, h⟩ := StateExcept.bind_eq_ok_iff.1 h
    obtain ⟨⟨⟩, disk₃, hrename, h⟩ := StateExcept.bind_eq_ok_iff.1 h
    cases h
    exact ⟨rfl, disk₁, disk₂, onFile_eq_ok_iff.1 hensure,
      onFile_eq_ok_iff.1 (tryDiscard_eq_ok_iff.1 hwrite),
      onFile_eq_ok_iff.1 (tryDiscard_eq_ok_iff.1 hrename)⟩
  · rintro ⟨rfl, disk₁, disk₂, hensure, hwrite, hrename⟩
    exact StateExcept.bind_eq_ok_iff.2 ⟨(), disk₁, onFile_eq_ok_iff.2 hensure,
      StateExcept.bind_eq_ok_iff.2 ⟨(), disk₂, tryDiscard_eq_ok_iff.2 (onFile_eq_ok_iff.2 hwrite),
        StateExcept.bind_eq_ok_iff.2
          ⟨(), disk', tryDiscard_eq_ok_iff.2 (onFile_eq_ok_iff.2 hrename), rfl⟩⟩⟩

/-! ### What a file gives -/

/-- The state that a store finds in the content of a file. -/
def stateIn (store : Store) (service : String) :
    FileReading → Except OperationError (Option State)
  | .error .notFound => .ok none
  | .error kind => .error (.io (store.path service) kind)
  | .ok bytes =>
    match State.ofBytes? bytes with
    | none => .error (.malformedRecord (.unreadableState (store.path service)))
    | some state =>
      if State.currentVersion < state.schemaVersion then
        .error (.malformedRecord (.laterFormat (store.path service) state.schemaVersion.toNat))
      else .ok (some state)

/-- What is loaded is told by what reading the file gives. -/
theorem load_eq (store : Store) (service : String) (disk : Disk) :
    store.load service disk = store.stateIn service (disk.read (store.path service)) := by
  rw [load, stateIn.eq_def]
  rfl

section stateIn

variable {file : FileReading}

/-- No state is loaded exactly if there is no file. -/
theorem stateIn_eq_ok_none_iff :
    store.stateIn service file = .ok none ↔ file = .error .notFound := by
  rcases file with kind | bytes
  · rcases kind <;> simp [stateIn]
  · rw [stateIn]
    rcases State.ofBytes? bytes with - | state
    · simp
    · dsimp only
      split <;> simp

/-- A state is loaded exactly if the file can be read as one of a format that is understood. -/
theorem stateIn_eq_ok_some_iff :
    store.stateIn service file = .ok (some state) ↔ ∃ bytes, file = .ok bytes ∧
      State.ofBytes? bytes = some state ∧ ¬ State.currentVersion < state.schemaVersion := by
  rcases file with kind | bytes
  · rcases kind <;> simp [stateIn]
  · rw [stateIn]
    rcases hbytes : State.ofBytes? bytes with - | found
    · simp [hbytes]
    · dsimp only
      split
      · next hlater =>
        simp [hbytes]
        grind
      · next hknown =>
        simp [hbytes]
        grind

/-- What can fail: reading the file, reading it as a state, and understanding its format. -/
theorem stateIn_eq_error_iff {e : OperationError} :
    store.stateIn service file = .error e ↔
      (∃ kind, file = .error kind ∧ kind ≠ .notFound ∧ e = .io (store.path service) kind) ∨
      ∃ bytes, file = .ok bytes ∧
        (State.ofBytes? bytes = none ∧
          e = .malformedRecord (.unreadableState (store.path service)) ∨
        ∃ state, State.ofBytes? bytes = some state ∧ State.currentVersion < state.schemaVersion ∧
          e = .malformedRecord (.laterFormat (store.path service) state.schemaVersion.toNat)) := by
  rcases file with kind | bytes
  · rcases kind <;> simp [stateIn, eq_comm]
  · rw [stateIn]
    rcases hbytes : State.ofBytes? bytes with - | found
    · simp [hbytes, eq_comm]
    · dsimp only
      split
      · next hlater => simp [hbytes, hlater, eq_comm]
      · next hknown => simp [hbytes, hknown]

end stateIn

/-! ### What is kept -/

/-- The directory of the store is empty, or it can be made and is empty then. -/
def Empty (store : Store) (disk : Disk) : Prop :=
  ∃ disk' place, Disk.ensureDirectory store.directory disk = (.ok (), disk') ∧
    disk'.Holds store.directory place fun _ ↦ none

/-- The files of the store are the documents of the kept states. -/
def Documents (store : Store) (disk : Disk) (kept : String → Option State) : Prop :=
  ∃ place files, disk.Holds store.directory place files ∧
    ∀ service, files (fileName service) = (kept service).map fun state ↦ Text.bytesOf state.document

/-- The store has these states on file, each for its service. -/
structure Filed (store : Store) (disk : Disk) (kept : String → Option State) : Prop where
  dated : ∀ service state, kept service = some state → state.recordedAt.Valid
  files : store.Documents disk kept ∨ store.Empty disk ∧ ∀ service, kept service = none

/-- What is loaded where a state is on file or none is. -/
def loaded (store : Store) (service : String) :
    Option State → Except OperationError (Option State)
  | none => .ok none
  | some state =>
    if State.currentVersion < state.schemaVersion then
      .error (.malformedRecord (.laterFormat (store.path service) state.schemaVersion.toNat))
    else .ok (some state)

variable {kept : String → Option State}

/-- What holds of the states on file holds after one that has it is put on file. -/
theorem forall_update_some {P : State → Prop}
    (h : ∀ service state, kept service = some state → P state) (hstate : P state) :
    ∀ other found, Function.update kept service (some state) other = some found → P found := by
  intro other found hfound
  by_cases hother : other = service
  · rw [hother, Function.update_self, Option.some.injEq] at hfound
    rwa [← hfound]
  · rw [Function.update_of_ne hother] at hfound
    exact h other found hfound

/-- What holds of the states on file holds after one is taken away. -/
theorem forall_update_none {P : State → Prop}
    (h : ∀ service state, kept service = some state → P state) :
    ∀ other found, Function.update kept service none other = some found → P found := by
  intro other found hfound
  by_cases hother : other = service
  · rw [hother, Function.update_self] at hfound
    cases hfound
  · rw [Function.update_of_ne hother] at hfound
    exact h other found hfound

theorem update_none_of_eq_none (h : kept service = none) :
    Function.update kept service none = kept := by
  rw [← h, Function.update_eq_self]

theorem Empty.filed (h : store.Empty disk) : store.Filed disk fun _ ↦ none where
  dated _ _ h := by cases h
  files := .inr ⟨h, fun _ ↦ rfl⟩

namespace Filed

/-- When the directory is made, the files are the documents of what is on file. -/
theorem documents (h : store.Filed disk kept)
    (hensure : Disk.ensureDirectory store.directory disk = (.ok (), disk')) :
    store.Documents disk' kept := by
  obtain ⟨place, files, hholds, hfiles⟩ | ⟨⟨disk₁, place, hensure₁, hholds⟩, hnone⟩ := h.files
  · rw [hholds.leadsTo.eq_of_ensureDirectory hensure]
    exact ⟨place, files, hholds, hfiles⟩
  · rw [hensure] at hensure₁
    cases hensure₁
    exact ⟨place, _, hholds, fun service ↦ by rw [hnone]; rfl⟩

/-- **A state that is saved is on file**, in place of what was on file for its service. -/
theorem save {path : String} (h : store.Filed disk kept)
    (hservice : '/' ∉ state.serviceName.toList) (hdated : state.recordedAt.Valid)
    (hsave : store.save state disk = (.ok path, disk')) :
    store.Filed disk' (Function.update kept state.serviceName (some state)) := by
  have hname := isFileName_fileName hservice
  have htemporary := isFileName_temporaryName hservice
  obtain ⟨-, disk₁, disk₂, hensure, hwrite, hrename⟩ := save_eq_ok_iff.1 hsave
  obtain ⟨place, files, hholds, hfiles⟩ := h.documents hensure
  rw [temporaryPath_path hservice] at hwrite hrename
  have hwritten := hholds.write htemporary hwrite
  have hrenamed := hwritten.rename htemporary hname fileName_ne_temporaryName
    (Function.update_self ..) hrename
  refine ⟨forall_update_some h.dated hdated, .inl ⟨place, _, hrenamed, fun service ↦ ?_⟩⟩
  by_cases hother : service = state.serviceName
  · rw [hother, Function.update_self, Function.update_self]
    rfl
  · rw [Function.update_of_ne (fileName_inj.not.2 hother),
      Function.update_of_ne fileName_ne_temporaryName,
      Function.update_of_ne fileName_ne_temporaryName, Function.update_of_ne hother, hfiles]

/-- **What is loaded for a service is what is on file for it.** -/
theorem load (h : store.Filed disk kept) (hservice : '/' ∉ service.toList)
    (hread : ∀ kind, disk.read (store.path service) = .error kind → kind = .notFound) :
    store.load service disk = store.loaded service (kept service) := by
  have hname := isFileName_fileName hservice
  have hpath : store.path service = Path.join store.directory (fileName service) := rfl
  obtain ⟨place, files, hholds, hfiles⟩ | ⟨⟨disk₁, place, hensure, hholds⟩, hnone⟩ := h.files
  · rcases hfound : disk.read (store.path service) with kind | bytes
    · obtain rfl := hread kind hfound
      have hfile := hholds.read_eq_notFound hname (hpath ▸ hfound)
      rw [hfiles, Option.map_eq_none_iff] at hfile
      simp only [Store.load, hfound, hfile, loaded]
    · have hfile := hholds.read_eq_ok hname (hpath ▸ hfound)
      rw [hfiles, Option.map_eq_some_iff] at hfile
      obtain ⟨state, hkept, rfl⟩ := hfile
      simp only [Store.load, hfound, State.ofBytes?_document (h.dated service state hkept), hkept,
        loaded]
  · rw [hnone]
    have hgrows := Disk.Grows.ensureDirectory store.directory disk
    rw [hensure] at hgrows
    rcases hfound : disk.read (store.path service) with kind | bytes
    · obtain rfl := hread kind hfound
      simp only [Store.load, hfound, loaded]
    · exact absurd (hpath ▸ hfound) (hholds.read_ne_ok_of_grows hname rfl hgrows)

/-- **What is removed is on file no longer**, and it is told whether it was. -/
theorem remove {removed : Bool} (h : store.Filed disk kept) (hservice : '/' ∉ service.toList)
    (hremove : store.remove service disk = (.ok removed, disk')) :
    removed = (kept service).isSome ∧
      store.Filed disk' (Function.update kept service none) := by
  have hname := isFileName_fileName hservice
  have hpath : store.path service = Path.join store.directory (fileName service) := rfl
  have hcases : removed = true ∧ Disk.remove (store.path service) disk = (.ok (), disk') ∨
      removed = false ∧ Disk.remove (store.path service) disk = (.error .notFound, disk') := by
    rw [Store.remove] at hremove
    rcases hdisk : Disk.remove (store.path service) disk with ⟨kind | ⟨⟩, disk₁⟩
    · rw [hdisk] at hremove
      cases kind with
      | notFound =>
        cases hremove
        exact .inr ⟨rfl, rfl⟩
      | _ => cases hremove
    · rw [hdisk] at hremove
      cases hremove
      exact .inl ⟨rfl, rfl⟩
  clear hremove
  -- Either the directory holds the files, or it can still be made and no state is kept. The
  -- second says that there is nothing to remove.
  obtain ⟨place, files, hholds, hfiles⟩ | ⟨⟨disk₁, place, hensure, hholds⟩, hnone⟩ := h.files
  · obtain ⟨rfl, hremove⟩ | ⟨rfl, hremove⟩ := hcases
    · obtain ⟨content, hfile⟩ := hholds.exists_of_remove hname (hpath ▸ hremove)
      rw [hfiles, Option.map_eq_some_iff] at hfile
      obtain ⟨state, hkept, -⟩ := hfile
      refine ⟨by rw [hkept]; rfl, forall_update_none h.dated,
        .inl ⟨place, _, hholds.remove hname (hpath ▸ hremove), fun other ↦ ?_⟩⟩
      by_cases hother : other = service
      · rw [hother, Function.update_self, Function.update_self]
        rfl
      · rw [Function.update_of_ne (fileName_inj.not.2 hother), Function.update_of_ne hother, hfiles]
    · obtain ⟨hfile, rfl⟩ := hholds.remove_eq_notFound hname (hpath ▸ hremove)
      have hkept : kept service = none := by
        rwa [hfiles, Option.map_eq_none_iff] at hfile
      rw [hkept, update_none_of_eq_none hkept]
      exact ⟨rfl, h.dated, .inl ⟨place, files, hholds, hfiles⟩⟩
  · have hgrows := Disk.Grows.ensureDirectory store.directory disk
    rw [hensure] at hgrows
    obtain ⟨rfl, hremove⟩ | ⟨rfl, hremove⟩ := hcases
    · exact absurd (hpath ▸ hremove) (hholds.remove_ne_ok_of_grows hname rfl hgrows)
    · rw [Disk.eq_of_remove_eq_error hremove, hnone, update_none_of_eq_none (hnone service)]
      exact ⟨rfl, h⟩

end Filed

/-- The store keeps these states, each for its service. -/
structure Keeps (store : Store) (disk : Disk) (kept : String → Option State) : Prop where
  readable : ∀ service state, kept service = some state → state.Readable
  files : store.Documents disk kept ∨ store.Empty disk ∧ ∀ service, kept service = none

namespace Keeps

theorem filed (h : store.Keeps disk kept) : store.Filed disk kept where
  dated service state hkept := (h.readable service state hkept).recordedAt
  files := h.files

/-- **A state that is saved is kept**, in place of what was kept for its service. -/
theorem save {path : String} (h : store.Keeps disk kept)
    (hservice : '/' ∉ state.serviceName.toList) (hreadable : state.Readable)
    (hsave : store.save state disk = (.ok path, disk')) :
    store.Keeps disk' (Function.update kept state.serviceName (some state)) where
  readable := forall_update_some h.readable hreadable
  files := (h.filed.save hservice hreadable.recordedAt hsave).files

/-- **What is loaded for a service is what is kept for it.** -/
theorem load (h : store.Keeps disk kept) (hservice : '/' ∉ service.toList)
    (hread : ∀ kind, disk.read (store.path service) = .error kind → kind = .notFound) :
    store.load service disk = .ok (kept service) := by
  rw [h.filed.load hservice hread]
  rcases hkept : kept service with - | state
  · rfl
  · exact if_neg (h.readable service state hkept).version

/-- **What is removed is kept no longer.** -/
theorem remove {removed : Bool} (h : store.Keeps disk kept) (hservice : '/' ∉ service.toList)
    (hremove : store.remove service disk = (.ok removed, disk')) :
    store.Keeps disk' (Function.update kept service none) where
  readable := forall_update_none h.readable
  files := (h.filed.remove hservice hremove).2.files

end Keeps

theorem Empty.keeps (h : store.Empty disk) : store.Keeps disk fun _ ↦ none where
  readable _ _ h := by cases h
  files := .inr ⟨h, fun _ ↦ rfl⟩

end Store

end Rollback

end ServerSetup
