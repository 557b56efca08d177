import Mathlib.Data.List.Induction
import ServerSetup.Proofs.Rehearsal.States

/-!
# The store is a map

A sequence of calls is answered as a map from services to states answers it: what is loaded for a
service is the state that was saved last for it and not removed since, and calls for other services
do not matter. This needs that no file operation of the calls fails, and on a disk that refuses
nothing none of them does.

The map is given twice. `lastSaved` goes through the calls and keeps what is on file for one
service, and `SavedLast` says of a state that the calls can be cut at a call which saved it, with no
later call about its service; `lastSaved_eq_some_iff` connects the two. The answers are compared
with the map by an induction on the calls from their end. The step is about one call on a disk whose
directory holds the files of the map so far: it answers as the map does, and the directory holds the
files of the changed map. What is written for a state is read back as this state, whatever its texts
are, since the moment and every text are put down in a form that the reader undoes.

`Undisturbed` says that no file operation failed, and `StoreCall.Proper` of a single call that its
service is no path and its moment a real one. The last section shows that a disk which refuses
nothing (`Disk.Willing`) is undisturbed, provided that the names fit.
-/

namespace ServerSetup

namespace Rollback

/-! ### Calls -/

/-- A call of a store. -/
inductive StoreCall
  | save (state : State)
  | load (service : String)
  | remove (service : String)

/-- What a call of a store answers. -/
inductive StoreAnswer
  | saved (result : Except OperationError String)
  | loaded (result : Except OperationError (Option State))
  | removed (result : Except OperationError Bool)

/-- The error of a call. -/
def StoreAnswer.error? : StoreAnswer → Option OperationError
  | saved (.error e) => some e
  | loaded (.error e) => some e
  | removed (.error e) => some e
  | _ => none

namespace StoreCall

/-- The service that a call is about. -/
def service : StoreCall → String
  | save state => state.serviceName
  | load service => service
  | remove service => service

/-- The name of the service is no path, and the moment of a state to save is one. -/
structure Proper (call : StoreCall) : Prop where
  plain : '/' ∉ call.service.toList
  dated : ∀ state, call = .save state → state.recordedAt.Valid

/-- A call changes what is on file for a service. -/
def Changes (service : String) : StoreCall → Prop
  | save state => state.serviceName = service
  | load _ => False
  | remove other => other = service

/-- What is on file for a service after a call, by what was on file before. -/
def update (service : String) (kept : Option State) : StoreCall → Option State
  | save state => if state.serviceName = service then some state else kept
  | load _ => kept
  | remove other => if other = service then none else kept

/-- A call that does not change what is on file for a service leaves it. -/
theorem update_of_not_changes {call : StoreCall} {service : String} {kept : Option State}
    (h : ¬call.Changes service) : call.update service kept = kept := by
  cases call with
  | save state => exact if_neg h
  | load other => rfl
  | remove other => exact if_neg h

theorem update_save (state : State) (kept : String → Option State) :
    (fun service ↦ (save state).update service (kept service)) =
      Function.update kept state.serviceName (some state) := by
  funext service
  rw [Function.update_apply, update]
  exact if_congr eq_comm rfl rfl

theorem update_remove (removed : String) (kept : String → Option State) :
    (fun service ↦ (remove removed).update service (kept service)) =
      Function.update kept removed none := by
  funext service
  rw [Function.update_apply, update]
  exact if_congr eq_comm rfl rfl

/-- A call changes nothing but what is on file for its own service. -/
theorem service_eq_of_changes {call : StoreCall} {service : String} (h : call.Changes service) :
    call.service = service := by
  cases call with
  | save state => exact h
  | load other => exact h.elim
  | remove other => exact h

end StoreCall

/-- The state that was saved last for a service and not removed since. -/
def lastSaved (calls : List StoreCall) (service : String) : Option State :=
  calls.foldl (fun kept call ↦ call.update service kept) none

/-- A state was saved, and what is on file for its service was not changed since. -/
def SavedLast (calls : List StoreCall) (state : State) : Prop :=
  ∃ before behind, calls = before ++ .save state :: behind ∧
    ∀ call ∈ behind, ¬call.Changes state.serviceName

section lastSaved

variable {calls more : List StoreCall} {call : StoreCall} {service : String} {state : State}

theorem lastSaved_concat :
    lastSaved (calls ++ [call]) service = call.update service (lastSaved calls service) :=
  List.foldl_concat ..

/-- Calls for other services do not matter. -/
theorem lastSaved_append (h : ∀ call ∈ more, ¬call.Changes service) :
    lastSaved (calls ++ more) service = lastSaved calls service := by
  induction more using List.reverseRecOn with
  | nil => rw [List.append_nil]
  | append_singleton more call ih =>
    obtain ⟨hmore, hcall⟩ := List.forall_mem_append.1 h
    rw [← List.append_assoc, lastSaved_concat, ih hmore,
      StoreCall.update_of_not_changes (hcall call List.mem_cons_self)]

/-- A state was saved last by the last call, or before it and not changed by it. -/
theorem savedLast_concat : SavedLast (calls ++ [call]) state ↔
    call = .save state ∨ SavedLast calls state ∧ ¬call.Changes state.serviceName := by
  constructor
  · rintro ⟨before, behind, hsplit, hbehind⟩
    obtain rfl | ⟨behind, last, rfl⟩ := List.eq_nil_or_concat behind
    · exact .inl (List.append_inj' hsplit rfl |>.2 |> List.cons.inj |>.1)
    · rw [List.concat_eq_append, ← List.cons_append, ← List.append_assoc] at hsplit
      obtain ⟨rfl, hlast⟩ := List.append_inj' hsplit rfl
      obtain rfl := List.cons.inj hlast |>.1
      rw [List.concat_eq_append, List.forall_mem_append] at hbehind
      exact .inr ⟨⟨before, behind, rfl, hbehind.1⟩, hbehind.2 _ List.mem_cons_self⟩
  · rintro (rfl | ⟨⟨before, behind, rfl, hbehind⟩, hcall⟩)
    · exact ⟨calls, [], rfl, fun _ h ↦ absurd h List.not_mem_nil⟩
    · refine ⟨before, behind ++ [call], by simp, ?_⟩
      exact List.forall_mem_append.2 ⟨hbehind, List.forall_mem_singleton.2 hcall⟩

/-- The map holds the state that was saved last for a service. -/
theorem lastSaved_eq_some_iff :
    lastSaved calls service = some state ↔ SavedLast calls state ∧ state.serviceName = service := by
  induction calls using List.reverseRecOn with
  | nil =>
    constructor
    · intro h
      cases h
    · rintro ⟨⟨before, behind, hsplit, -⟩, -⟩
      exact absurd hsplit (by simp)
  | append_singleton calls call ih =>
    rw [lastSaved_concat, savedLast_concat]
    -- The last call decides, unless it is about another service or loads.
    by_cases hchanges : call.Changes service
    · cases call with
      | save saved =>
        have hservice : saved.serviceName = service := hchanges
        rw [StoreCall.update, if_pos hservice, Option.some.injEq]
        constructor
        · rintro rfl
          exact ⟨.inl rfl, hchanges⟩
        · rintro ⟨hsaved | ⟨-, hother⟩, rfl⟩
          · exact StoreCall.save.inj hsaved
          · exact absurd hchanges hother
      | load other => exact hchanges.elim
      | remove other =>
        have hservice : other = service := hchanges
        rw [StoreCall.update, if_pos hservice]
        constructor
        · intro h
          cases h
        · rintro ⟨hsaved | ⟨-, hother⟩, rfl⟩
          · cases hsaved
          · exact absurd hchanges hother
    · rw [StoreCall.update_of_not_changes hchanges, ih]
      constructor
      · rintro ⟨hsaved, rfl⟩
        exact ⟨.inr ⟨hsaved, hchanges⟩, rfl⟩
      · rintro ⟨rfl | ⟨hsaved, -⟩, rfl⟩
        · exact absurd rfl hchanges
        · exact ⟨hsaved, rfl⟩

end lastSaved

/-! ### Runs -/

namespace Store

variable {store : Store} {disk disk' : Disk} {calls : List StoreCall} {call : StoreCall}
  {service : String} {state : State} {kept : String → Option State}

/-- A call of a store: its answer, and the disk behind it. -/
def perform (store : Store) : StoreCall → Disk → StoreAnswer × Disk
  | .save state, disk => (.saved (store.save state disk).1, (store.save state disk).2)
  | .load service, disk => (.loaded (store.load service disk), disk)
  | .remove service, disk => (.removed (store.remove service disk).1, (store.remove service disk).2)

/-- The disk after calls. -/
def after (store : Store) (calls : List StoreCall) (disk : Disk) : Disk :=
  calls.foldl (fun disk call ↦ (store.perform call disk).2) disk

/-- What a call is to be answered where a state is on file for its service or none is. -/
def reply (store : Store) (kept : Option State) : StoreCall → StoreAnswer
  | .save state => .saved (.ok (store.path state.serviceName))
  | .load service => .loaded (store.loaded service kept)
  | .remove _ => .removed (.ok kept.isSome)

/-- No file operation fails in a sequence of calls. -/
def Undisturbed (store : Store) (disk : Disk) (calls : List StoreCall) : Prop :=
  ∀ before call behind, calls = before ++ call :: behind → ∀ path kind,
    (store.perform call (store.after before disk)).1.error? ≠ some (.io path kind)

/-- The last call is performed on the disk that the calls before it left. -/
theorem after_concat : store.after (calls ++ [call]) disk =
    (store.perform call (store.after calls disk)).2 :=
  List.foldl_concat ..

/-- If no file operation of the calls failed, none of the first of them did. -/
theorem Undisturbed.of_append {more : List StoreCall}
    (h : store.Undisturbed disk (calls ++ more)) : store.Undisturbed disk calls := by
  rintro before call behind rfl
  exact h before call (behind ++ more) (by simp)

/-! ### Answers -/

/-- Operations that fail only where a file operation does. -/
def FailsByFile {α : Type} (op : StoreM α) : Prop :=
  ∀ disk e disk', op disk = (.error e, disk') → ∃ path kind, e = .io path kind

/-- An operation on a file fails by the error of the file. -/
theorem failsByFile_onFile {α : Type} (path : String) (op : DiskM α) :
    FailsByFile (onFile path op) := by
  intro disk e disk' h
  rw [onFile] at h
  rcases hop : op disk with ⟨kind | a, disk₁⟩
  · rw [hop] at h
    cases h
    exact ⟨path, kind, rfl⟩
  · rw [hop] at h
    cases h

theorem failsByFile_pure {α : Type} (a : α) : FailsByFile (Pure.pure a) := by
  intro disk e disk' h
  cases h

/-- Two operations that fail by errors of files do so one after the other. -/
theorem FailsByFile.bind {α β : Type} {op : StoreM α} {next : α → StoreM β} (h : FailsByFile op)
    (hnext : ∀ a, FailsByFile (next a)) : FailsByFile (op >>= next) := by
  intro disk e disk' hrun
  rw [StateExcept.bind_eq] at hrun
  rcases hop : op disk with ⟨e' | a, disk₁⟩
  · rw [hop] at hrun
    cases hrun
    exact h disk e disk' hop
  · rw [hop] at hrun
    exact hnext a disk₁ e disk' hrun

/-- Discarding a file on the way out does not change the error. -/
theorem FailsByFile.tryDiscard {op : StoreM Unit} (h : FailsByFile op) (path : String) :
    FailsByFile (tryCatch op fun e ↦ do discard path; throw e) := by
  intro disk e disk' hrun
  rw [StateExcept.tryCatch_eq] at hrun
  rcases hop : op disk with ⟨e' | a, disk₁⟩
  · rw [hop] at hrun
    cases hrun
    exact h disk e disk₁ hop
  · rw [hop] at hrun
    cases hrun

theorem failsByFile_save (state : State) : FailsByFile (store.save state) := by
  refine (failsByFile_onFile _ _).bind fun _ ↦ ?_
  refine ((failsByFile_onFile _ _).tryDiscard _).bind fun _ ↦ ?_
  exact ((failsByFile_onFile _ _).tryDiscard _).bind fun _ ↦ failsByFile_pure _

/-- Removing fails by the error of a file only. -/
theorem failsByFile_remove (service : String) : FailsByFile (store.remove service) := by
  intro disk e disk' h
  rw [Store.remove] at h
  rcases hdisk : Disk.remove (store.path service) disk with ⟨kind | ⟨⟩, disk₁⟩
  · rw [hdisk] at h
    cases kind with
    | notFound => cases h
    | _ =>
      cases h
      exact ⟨_, _, rfl⟩
  · rw [hdisk] at h
    cases h

/-- A file that cannot be read is an error, unless it was not found. -/
theorem load_eq_io {kind : IoKind} (hread : disk.read (store.path service) = .error kind)
    (hkind : kind ≠ .notFound) :
    store.load service disk = .error (.io (store.path service) kind) := by
  simp only [Store.load, hread]

/-- Loading fails by a file operation only where reading does. -/
theorem load_ne_io (hread : ∀ kind, disk.read (store.path service) = .error kind → kind = .notFound)
    (path : String) (kind : IoKind) : store.load service disk ≠ .error (.io path kind) := by
  intro h
  rw [Store.load] at h
  rcases hfound : disk.read (store.path service) with found | bytes
  · obtain rfl := hread found hfound
    rw [hfound] at h
    cases h
  · rw [hfound] at h
    dsimp only at h
    split at h
    · cases h
    · split at h <;> cases h

/-- **A call is answered as a map from services to states answers it**, and it leaves on file what
the map is then. -/
theorem Filed.perform (h : store.Filed disk kept) (hproper : call.Proper)
    (hundisturbed : ∀ path kind, (store.perform call disk).1.error? ≠ some (.io path kind)) :
    (store.perform call disk).1 = store.reply (kept call.service) call ∧
      store.Filed (store.perform call disk).2 fun service ↦ call.update service (kept service) := by
  -- A call that fails, fails by a file, which is excluded; any other answers as the map does.
  cases call with
  | save state =>
    have hanswer : store.perform (.save state) disk =
        (.saved (store.save state disk).1, (store.save state disk).2) := rfl
    rw [hanswer] at hundisturbed ⊢
    rcases hsave : store.save state disk with ⟨e | path, disk'⟩
    · rw [hsave] at hundisturbed
      obtain ⟨path, kind, rfl⟩ := failsByFile_save state disk e disk' hsave
      exact absurd rfl (hundisturbed path kind)
    · obtain ⟨rfl, -⟩ := save_eq_ok_iff.1 hsave
      refine ⟨rfl, ?_⟩
      rw [StoreCall.update_save]
      exact h.save hproper.plain (hproper.dated state rfl) hsave
  | load service =>
    refine ⟨congrArg StoreAnswer.loaded (h.load hproper.plain fun kind hread ↦ ?_), h⟩
    by_contra hkind
    have hload : store.perform (.load service) disk =
        (.loaded (.error (.io (store.path service) kind)), disk) := by
      rw [perform, load_eq_io hread hkind]
    rw [hload] at hundisturbed
    exact hundisturbed (store.path service) kind rfl
  | remove service =>
    have hanswer : store.perform (.remove service) disk =
        (.removed (store.remove service disk).1, (store.remove service disk).2) := rfl
    rw [hanswer] at hundisturbed ⊢
    rcases hremove : store.remove service disk with ⟨e | removed, disk'⟩
    · rw [hremove] at hundisturbed
      obtain ⟨path, kind, rfl⟩ := failsByFile_remove service disk e disk' hremove
      exact absurd rfl (hundisturbed path kind)
    · obtain ⟨rfl, hfiled⟩ := h.remove hproper.plain hremove
      refine ⟨rfl, ?_⟩
      rw [StoreCall.update_remove]
      exact hfiled

/-- **What is on file after a sequence of calls is what was saved last.** -/
theorem Empty.filed_after (h : store.Empty disk) (hproper : ∀ call ∈ calls, call.Proper)
    (hundisturbed : store.Undisturbed disk calls) :
    store.Filed (store.after calls disk) (lastSaved calls) := by
  induction calls using List.reverseRecOn with
  | nil => exact h.filed
  | append_singleton calls call ih =>
    obtain ⟨hcalls, hcall⟩ := List.forall_mem_append.1 hproper
    have hkept : lastSaved (calls ++ [call]) =
        fun service ↦ call.update service (lastSaved calls service) :=
      funext fun _ ↦ lastSaved_concat
    rw [after_concat, hkept]
    exact ((ih hcalls hundisturbed.of_append).perform (hcall call List.mem_cons_self)
      (hundisturbed calls call [] rfl)).2

/-- A call behind others is answered by what was saved last for its service. -/
theorem Empty.answer_after {behind : List StoreCall} (h : store.Empty disk)
    (hproper : ∀ c ∈ calls ++ call :: behind, c.Proper)
    (hundisturbed : store.Undisturbed disk (calls ++ call :: behind)) :
    (store.perform call (store.after calls disk)).1 =
      store.reply (lastSaved calls call.service) call := by
  obtain ⟨hcalls, hcall⟩ := List.forall_mem_append.1 hproper
  exact ((h.filed_after hcalls hundisturbed.of_append).perform (hcall call List.mem_cons_self)
    (hundisturbed calls call behind rfl)).1

/-! ### A disk that refuses nothing -/

/-- The directory of the store is there with nothing but files in it, or it can be made. -/
def Serves (store : Store) (disk : Disk) : Prop :=
  (∃ place files, disk.Holds store.directory place files) ∨ store.Empty disk ∧ disk.WellFormed

/-- A name that is acceptable with the ending of temporary files is acceptable without. -/
theorem fits_fileName (hservice : '/' ∉ service.toList)
    (h : Path.Fits store.directory (temporaryName service)) :
    Path.Fits store.directory (fileName service) :=
  h.of_append (isFileName_fileName hservice)

namespace Serves

/-- The directory is there when it was made. -/
theorem made (h : store.Serves disk) (hwilling : disk.Willing)
    (hfits : Path.Fits store.directory (temporaryName service)) :
    ∃ disk₁ place files, Disk.ensureDirectory store.directory disk = (.ok (), disk₁) ∧
      disk₁.Willing ∧ disk₁.Holds store.directory place files := by
  obtain ⟨place, files, hholds⟩ | ⟨⟨disk₁, place, hensure, hholds⟩, -⟩ := h
  · exact ⟨disk, place, files, hholds.ensureDirectory_of_fits hfits, hwilling, hholds⟩
  · have hgrows := Disk.Grows.ensureDirectory store.directory disk
    rw [hensure] at hgrows
    exact ⟨disk₁, place, _, hensure, hgrows.willing hwilling, hholds⟩

/-- Where nothing is refused, saving succeeds and leaves it so. -/
theorem save (h : store.Serves disk) (hwilling : disk.Willing)
    (hservice : '/' ∉ state.serviceName.toList)
    (hfits : Path.Fits store.directory (temporaryName state.serviceName)) :
    ∃ disk', store.save state disk = (.ok (store.path state.serviceName), disk') ∧
      disk'.Willing ∧ store.Serves disk' := by
  have hname := isFileName_fileName hservice
  have htemporary := isFileName_temporaryName hservice
  obtain ⟨disk₁, place, files, hensure, hwilling₁, hholds⟩ := h.made hwilling hfits
  obtain ⟨disk₂, hwrite, hwilling₂⟩ :=
    hholds.write_of_willing hwilling₁ hfits (Text.bytesOf state.document)
  have hwritten := hholds.write htemporary hwrite
  obtain ⟨disk₃, hrename, hwilling₃⟩ := hwritten.rename_of_willing hwilling₂ hfits
    (fits_fileName hservice hfits) (Function.update_self ..)
  have hrenamed := hwritten.rename htemporary hname fileName_ne_temporaryName
    (Function.update_self ..) hrename
  refine ⟨disk₃, save_eq_ok_iff.2 ⟨rfl, disk₁, disk₂, hensure, ?_, ?_⟩, hwilling₃,
    .inl ⟨place, _, hrenamed⟩⟩
  · rw [temporaryPath_path hservice]
    exact hwrite
  · rw [temporaryPath_path hservice]
    exact hrename

/-- Where there is no state to load, this is because its file is not there. -/
theorem read (h : store.Serves disk) (hwilling : disk.Willing) (hservice : '/' ∉ service.toList)
    (hfits : Path.Fits store.directory (temporaryName service)) {kind : IoKind}
    (hread : disk.read (store.path service) = .error kind) : kind = .notFound := by
  have hfile := fits_fileName hservice hfits
  have hpath : store.path service = Path.join store.directory (fileName service) := rfl
  rw [hpath] at hread
  obtain ⟨place, files, hholds⟩ | ⟨⟨disk₁, place, hensure, hholds⟩, hdisk⟩ := h
  · rw [hholds.read_of_willing hwilling hfile] at hread
    rcases hcontent : files (fileName service) with - | content
    · rw [hcontent] at hread
      cases hread
      rfl
    · rw [hcontent] at hread
      cases hread
  · have hgrows := Disk.Grows.ensureDirectory store.directory disk
    rw [hensure] at hgrows
    rw [hholds.read_of_grows hfile rfl hgrows hdisk] at hread
    cases hread
    rfl

/-- Where nothing is refused, removing succeeds and leaves it so. -/
theorem remove (h : store.Serves disk) (hwilling : disk.Willing)
    (hservice : '/' ∉ service.toList)
    (hfits : Path.Fits store.directory (temporaryName service)) :
    ∃ removed disk', store.remove service disk = (.ok removed, disk') ∧ disk'.Willing ∧
      store.Serves disk' := by
  have hfile := fits_fileName hservice hfits
  have hpath : store.path service = Path.join store.directory (fileName service) := rfl
  rw [Store.remove, hpath]
  obtain ⟨place, files, hholds⟩ | ⟨hempty, hdisk⟩ := h
  · obtain ⟨disk', hremove, hwilling'⟩ | hremove := hholds.remove_of_willing hwilling hfile
    · rw [hremove]
      exact ⟨true, disk', rfl, hwilling', .inl ⟨place, _, hholds.remove hfile.isFileName hremove⟩⟩
    · rw [hremove]
      exact ⟨false, disk, rfl, hwilling, .inl ⟨place, files, hholds⟩⟩
  · obtain ⟨disk₁, place, hensure, hholds⟩ := hempty
    have hgrows := Disk.Grows.ensureDirectory store.directory disk
    rw [hensure] at hgrows
    rw [hholds.remove_of_grows hfile rfl hgrows hdisk]
    exact ⟨false, disk, rfl, hwilling, .inr ⟨⟨disk₁, place, hensure, hholds⟩, hdisk⟩⟩

/-- **No file operation of a call fails.** -/
theorem perform (h : store.Serves disk) (hwilling : disk.Willing)
    (hservice : '/' ∉ call.service.toList)
    (hfits : Path.Fits store.directory (temporaryName call.service)) :
    (∀ path kind, (store.perform call disk).1.error? ≠ some (.io path kind)) ∧
      (store.perform call disk).2.Willing ∧ store.Serves (store.perform call disk).2 := by
  cases call with
  | save state =>
    obtain ⟨disk', hsave, hwilling', hserves⟩ := h.save hwilling hservice hfits
    rw [Store.perform, hsave]
    exact ⟨fun _ _ ↦ nofun, hwilling', hserves⟩
  | load service =>
    refine ⟨fun path kind herror ↦ ?_, hwilling, h⟩
    rcases hload : store.load service disk with e | found
    · rw [Store.perform, hload, StoreAnswer.error?, Option.some.injEq] at herror
      rw [herror] at hload
      exact load_ne_io (fun _ hread ↦ h.read hwilling hservice hfits hread) path kind hload
    · rw [Store.perform, hload] at herror
      cases herror
  | remove service =>
    obtain ⟨removed, disk', hremove, hwilling', hserves⟩ := h.remove hwilling hservice hfits
    rw [Store.perform, show store.remove service disk = _ from hremove]
    exact ⟨fun _ _ ↦ nofun, hwilling', hserves⟩

/-- Where nothing is refused, it stays so along the calls. -/
theorem after (h : store.Serves disk) (hwilling : disk.Willing)
    (hcalls : ∀ call ∈ calls, '/' ∉ call.service.toList ∧
      Path.Fits store.directory (temporaryName call.service)) :
    (store.after calls disk).Willing ∧ store.Serves (store.after calls disk) := by
  induction calls using List.reverseRecOn with
  | nil => exact ⟨hwilling, h⟩
  | append_singleton calls call ih =>
    obtain ⟨hcalls, hcall⟩ := List.forall_mem_append.1 hcalls
    obtain ⟨hservice, hfits⟩ := hcall call List.mem_cons_self
    obtain ⟨hwilling', hserves⟩ := ih hcalls
    rw [after_concat]
    exact (hserves.perform hwilling' hservice hfits).2

end Serves

/-- **The store is a map.** In a sequence of calls in which no file operation fails, what is loaded
for a service is the state that was saved last for it and not removed since, in every field, or it
is refused for the version of its format; nothing is loaded where there is none; what is removed was
there exactly if there is one; and calls for other services do not change what is loaded. On a disk
that refuses nothing, no file operation fails. -/
theorem Empty.answers_as_map (h : store.Empty disk) (hproper : ∀ call ∈ calls, call.Proper) :
    (store.Undisturbed disk calls →
      (∀ before call behind, calls = before ++ call :: behind → ∃ kept : Option State,
        (∀ state, kept = some state ↔ SavedLast before state ∧ state.serviceName = call.service) ∧
          (store.perform call (store.after before disk)).1 = store.reply kept call) ∧
      ∀ before service between behind,
        calls = before ++ .load service :: (between ++ .load service :: behind) →
        (∀ call ∈ between, call.service ≠ service) →
        store.load service (store.after (before ++ .load service :: between) disk) =
          store.load service (store.after before disk)) ∧
    (disk.Willing → disk.WellFormed →
      (∀ call ∈ calls, Path.Fits store.directory (temporaryName call.service)) →
      store.Undisturbed disk calls) := by
  refine ⟨fun hundisturbed ↦ ⟨?_, ?_⟩, fun hwilling hdisk hfits ↦ ?_⟩
  · rintro before call behind rfl
    exact ⟨lastSaved before call.service, fun _ ↦ lastSaved_eq_some_iff,
      h.answer_after hproper hundisturbed⟩
  · rintro before service between behind rfl hbetween
    -- Both are answered by what was saved last, which the calls in between do not change.
    have hfirst := h.answer_after hproper hundisturbed
    have hsplit : before ++ .load service :: (between ++ .load service :: behind) =
        (before ++ .load service :: between) ++ .load service :: behind := by simp
    rw [hsplit] at hproper hundisturbed
    have hagain := h.answer_after hproper hundisturbed
    have hsame : lastSaved (before ++ .load service :: between) service =
        lastSaved before service := by
      refine lastSaved_append (List.forall_mem_cons.2 ⟨id, fun call hcall hchanges ↦ ?_⟩)
      exact hbetween call hcall (StoreCall.service_eq_of_changes hchanges)
    rw [show (StoreCall.load service).service = service from rfl] at hfirst hagain
    rw [hsame] at hagain
    exact StoreAnswer.loaded.inj (hagain.trans hfirst.symm)
  · rintro before call behind rfl path kind
    have hcalls (c : StoreCall) (hc : c ∈ before ++ call :: behind) :
        '/' ∉ c.service.toList ∧ Path.Fits store.directory (temporaryName c.service) :=
      ⟨(hproper c hc).plain, hfits c hc⟩
    obtain ⟨hbefore, hcall⟩ := List.forall_mem_append.1 hcalls
    obtain ⟨hwilling', hserves⟩ := Serves.after (.inr ⟨h, hdisk⟩) hwilling hbefore
    obtain ⟨hservice, hfit⟩ := hcall call List.mem_cons_self
    exact (hserves.perform hwilling' hservice hfit).1 path kind

end Store

end Rollback

namespace Rehearsal

open Rollback

/-- Calls about two services. -/
def webCalls : List StoreCall :=
  [.save webState, .load "web", .remove "db", .load "web", .remove "web", .load "web"]

theorem service_webCalls : ∀ call ∈ webCalls, call.service = "web" ∨ call.service = "db" := by
  simp only [webCalls, List.forall_mem_cons, List.not_mem_nil, false_implies, implies_true,
    and_true]
  exact ⟨.inl rfl, .inl rfl, .inr rfl, .inl rfl, .inl rfl, .inl rfl⟩

theorem proper_webCalls : ∀ call ∈ webCalls, call.Proper := by
  intro call hcall
  constructor
  · rcases service_webCalls call hcall with hservice | hservice
    · rw [hservice]
      decide
    · rw [hservice]
      decide
  · rintro state rfl
    have hstate : state = webState := by simpa [webCalls] using hcall
    rw [hstate]
    decide

theorem fits_webCalls : ∀ call ∈ webCalls,
    Path.Fits manager.store.directory (Store.temporaryName call.service) := by
  intro call hcall
  rcases service_webCalls call hcall with hservice | hservice
  · rw [hservice]
    exact ⟨Store.isFileName_temporaryName (by decide), by decide, by decide, by decide⟩
  · rw [hservice]
    exact ⟨Store.isFileName_temporaryName (by decide), by decide, by decide, by decide⟩

/-- On an empty disk, a state that was saved is loaded until it is removed. -/
theorem load_until_remove :
    let store := manager.store
    let disk := (worldWith []).disk
    store.load "web" (store.after [.save webState] disk) = .ok (some webState) ∧
      store.load "web" (store.after [.save webState, .load "web", .remove "db"] disk) =
        .ok (some webState) ∧
      store.load "web" (store.after
        [.save webState, .load "web", .remove "db", .load "web", .remove "web"] disk) =
          .ok none := by
  have hdisk : (worldWith []).disk.WellFormed :=
    ⟨FileTree.wellFormed_of_forall fun _ h ↦ absurd h List.not_mem_nil, rfl⟩
  obtain ⟨hmap, hundisturbed⟩ := (empty_worldWith []).answers_as_map proper_webCalls
  obtain ⟨hanswer, hsame⟩ := hmap (hundisturbed (fun _ ↦ rfl) hdisk fits_webCalls)
  obtain ⟨kept, hkept, hfirst⟩ := hanswer [.save webState] (.load "web") _ rfl
  obtain ⟨last, hlast, hthird⟩ := hanswer
    [.save webState, .load "web", .remove "db", .load "web", .remove "web"] (.load "web") _ rfl
  have hsaved : kept = some webState :=
    (hkept webState).2 ⟨⟨[], [], rfl, fun _ h ↦ absurd h List.not_mem_nil⟩, rfl⟩
  have hnone : last = none := by
    rcases last with - | state
    · rfl
    · have hstate := lastSaved_eq_some_iff.2 ((hlast state).1 rfl)
      simp [lastSaved, StoreCall.update, StoreCall.service] at hstate
  rw [hsaved] at hfirst
  rw [hnone] at hthird
  have hload := StoreAnswer.loaded.inj hfirst
  have hdb : ∀ call ∈ [StoreCall.remove "db"], call.service ≠ "web" := by
    simp [StoreCall.service]
  exact ⟨hload, (hsame [.save webState] "web" [.remove "db"] _ rfl hdb).trans hload,
    StoreAnswer.loaded.inj hthird⟩

end Rehearsal

end ServerSetup
