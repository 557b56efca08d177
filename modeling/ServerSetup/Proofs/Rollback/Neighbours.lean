import ServerSetup.Proofs.Disk.Neighbours
import ServerSetup.Proofs.Rollback.Confinement

/-!
# The files of one service beside those of another

The store keeps the files of all services in one directory, and each service has a file and a
temporary file of its own there. Calls about one service are local to these names. So they leave
what the store gives for another service (`Settled.perform`), and calls about two services can
change places (`Settled.sameBut_swap`). This needs that the files of the services are no links, and
that the directory, if it is not there yet, is made without such files or cannot be made at all.

`Settled` has a case for each of the three. In a directory that is there, everything follows from
the locality of calls (`Accepts.local_perform`) and from the fact that two services have no name in
common (`OwnName.not_of_ne`). A directory that can be made is made by the first call that saves a
state, and until then every call does what it would do if it were made already
(`Makeable.perform_eq`), so this case comes down to the one before. Where the directory cannot be
made, calls change nothing.

What a store gives for a service is taken as the answers to all calls about it, now and later
(`AlikeFor`). Two disks that are alike in this sense may still differ in the directory itself, which
one of them may have and the other not.
-/

namespace ServerSetup.Rollback.Store

variable {store : Store} {service other name : String} {state : State} {directory : Location}
  {disk disk' disk'' made : Disk} {calls calls' : List StoreCall} {call : StoreCall}
  {services : String → Prop}

/-! ### Own names -/

/-- The names that the files of a service have. -/
def OwnName (service name : String) : Prop :=
  name = fileName service ∨ name = temporaryName service

/-- The names that the files of some services have. -/
def OwnNames (services : String → Prop) (name : String) : Prop :=
  ∃ service, services service ∧ OwnName service name

/-- The name of a service is acceptable for the names of its files. -/
structure Accepts (store : Store) (service : String) : Prop where
  nonempty : service ≠ ""
  fits : Path.Fits store.directory (temporaryName service)

theorem path_eq (store : Store) (service : String) :
    store.path service = Path.join store.directory (fileName service) := rfl

theorem temporaryName_inj (h : service ≠ "") (h' : other ≠ "") :
    temporaryName service = temporaryName other ↔ service = other := by
  rw [temporaryName, temporaryName, if_neg h, if_neg h', ← String.toList_inj,
    String.toList_append, String.toList_append, List.append_cancel_right_eq, String.toList_inj,
    fileName_inj]

/-- **Two services have no name of a file in common**, even if one of them is named like a file of
the other. -/
theorem OwnName.not_of_ne (h : OwnName service name) (hne : service ≠ other)
    (hservice : service ≠ "") (hother : other ≠ "") : ¬ OwnName other name := by
  rintro (rfl | rfl) <;> rcases h with h | h
  · exact hne (fileName_inj.1 h).symm
  · exact fileName_ne_temporaryName h
  · exact fileName_ne_temporaryName h.symm
  · exact hne ((temporaryName_inj hother hservice).1 h).symm

namespace Accepts

/-- A name that is acceptable has no slash in it. -/
theorem plain (h : store.Accepts service) : '/' ∉ service.toList := by
  have hslash := h.fits.isFileName.noSlash
  rw [temporaryName, fileName, String.toList_append, List.mem_append, not_or,
    String.toList_append, List.mem_append, not_or] at hslash
  exact hslash.1.1

/-- The name of the file is acceptable if that of the temporary file is. -/
theorem fits_file (h : store.Accepts service) : Path.Fits store.directory (fileName service) :=
  fits_fileName h.plain h.fits

end Accepts

theorem after_append (calls calls' : List StoreCall) (disk : Disk) :
    store.after (calls ++ calls') disk = store.after calls' (store.after calls disk) :=
  List.foldl_append

/-! ### Calls are local -/

theorem local_onFile {α : Type} {names : String → Prop} {path : String} {op : DiskM α}
    (hop : Disk.Local store.directory directory names op) :
    Disk.Local store.directory directory names (onFile path op) := by
  rw [onFile_eq]
  exact hop.map (Except.mapError (OperationError.io path))

section

variable (h : store.Accepts service)

include h

theorem Accepts.local_read : Disk.Local store.directory directory (OwnName service)
    fun disk ↦ (disk.read (store.path service), disk) :=
  .read h.fits_file (.inl rfl)

theorem Accepts.local_remove :
    Disk.Local store.directory directory (OwnName service) (store.remove service) := by
  rw [remove_eq]
  exact Disk.Local.map (.remove h.fits_file (.inl rfl)) (removed (store.path service))

/-- Saving a state is local to the names of its service. -/
theorem Accepts.local_save (hstate : state.serviceName = service) :
    Disk.Local store.directory directory (OwnName service) (store.save state) := by
  have hdiscard : Disk.Local store.directory directory (OwnName service)
      (discard (Path.join store.directory (temporaryName service))) :=
    Disk.Local.map (.remove h.fits (.inr rfl)) fun _ ↦ Except.ok ()
  have hgiveUp (e : OperationError) : Disk.Local store.directory directory (OwnName service)
      (do discard (Path.join store.directory (temporaryName service)); throw e : StoreM Unit) :=
    hdiscard.bind fun _ ↦ .answer _
  subst hstate
  rw [save]
  dsimp only
  rw [temporaryPath_path h.plain]
  refine (local_onFile (.ensureDirectory h.fits)).bind fun _ ↦ ?_
  refine ((local_onFile (.write h.fits (.inr rfl) _)).tryCatch hgiveUp).bind fun _ ↦ ?_
  refine ((local_onFile ?_).tryCatch hgiveUp).bind fun _ ↦ .answer _
  exact .rename h.fits h.fits_file (.inr rfl) (.inl rfl)

end

/-- **A call is local to the names of its service.** -/
theorem Accepts.local_perform (h : store.Accepts call.service) :
    Disk.Local store.directory directory (OwnName call.service) (store.perform call) := by
  cases call with
  | save state => exact (h.local_save rfl).map StoreAnswer.saved
  | load service =>
    have hload : store.perform (.load service) =
        fun disk ↦ (.loaded (store.stateIn service (disk.read (store.path service))), disk) := by
      funext disk
      rw [perform, load_eq]
    rw [hload]
    exact h.local_read.map fun file ↦ StoreAnswer.loaded (store.stateIn service file)
  | remove service => exact h.local_remove.map StoreAnswer.removed

/-- So are several calls about one service. -/
theorem Accepts.local_after (h : store.Accepts service)
    (hcalls : ∀ call ∈ calls, call.service = service) :
    Disk.Local store.directory directory (OwnName service)
      fun disk ↦ ((), store.after calls disk) := by
  induction calls with
  | nil => exact .answer ()
  | cons call calls ih =>
    obtain ⟨rfl, hrest⟩ := List.forall_mem_cons.1 hcalls
    exact @Disk.Local.andThen _ _ _ _ _ _ (fun _ disk ↦ ((), store.after calls disk))
      h.local_perform fun _ ↦ ih hrest

/-! ### What a store gives for a service -/

/-- A store gives the same for a service on two disks: its file reads alike and calls about it are
answered alike, whatever calls about it came before. -/
def AlikeFor (store : Store) (service : String) (disk disk' : Disk) : Prop :=
  ∀ calls : List StoreCall, (∀ call ∈ calls, call.service = service) →
    (store.after calls disk').read (store.path service) =
        (store.after calls disk).read (store.path service) ∧
      ∀ call : StoreCall, call.service = service →
        (store.perform call (store.after calls disk')).1 =
          (store.perform call (store.after calls disk)).1

namespace AlikeFor

theorem refl (store : Store) (service : String) (disk : Disk) : store.AlikeFor service disk disk :=
  fun _ _ ↦ ⟨rfl, fun _ _ ↦ rfl⟩

theorem trans (h : store.AlikeFor service disk disk') (h' : store.AlikeFor service disk' disk'') :
    store.AlikeFor service disk disk'' := by
  intro calls hcalls
  obtain ⟨hread, hanswer⟩ := h calls hcalls
  obtain ⟨hread', hanswer'⟩ := h' calls hcalls
  exact ⟨hread'.trans hread, fun call hcall ↦ (hanswer' call hcall).trans (hanswer call hcall)⟩

/-- The file of the service reads alike. -/
theorem read_eq (h : store.AlikeFor service disk disk') :
    disk'.read (store.path service) = disk.read (store.path service) :=
  (h [] (by simp)).1

/-- A call about the service is answered alike and leaves such disks. -/
theorem perform (h : store.AlikeFor call.service disk disk') :
    (store.perform call disk').1 = (store.perform call disk).1 ∧
      store.AlikeFor call.service (store.perform call disk).2 (store.perform call disk').2 :=
  ⟨(h [] (by simp)).2 call rfl,
    fun calls hcalls ↦ h (call :: calls) (List.forall_mem_cons.2 ⟨rfl, hcalls⟩)⟩

/-- What every call about the service keeps, with the same answer, is enough. -/
theorem of_invariant {R : Disk → Disk → Prop}
    (hread : ∀ disk disk', R disk disk' →
      disk'.read (store.path service) = disk.read (store.path service))
    (hperform : ∀ call : StoreCall, call.service = service → ∀ disk disk', R disk disk' →
      (store.perform call disk').1 = (store.perform call disk).1 ∧
        R (store.perform call disk).2 (store.perform call disk').2)
    (h : R disk disk') : store.AlikeFor service disk disk' := by
  intro calls hcalls
  induction calls generalizing disk disk' with
  | nil => exact ⟨hread disk disk' h, fun call hcall ↦ (hperform call hcall disk disk' h).1⟩
  | cons call calls ih =>
    obtain ⟨hcall, hrest⟩ := List.forall_mem_cons.1 hcalls
    exact ih (hperform call hcall disk disk' h).2 hrest

/-- Two disks with the same files of a service in the directory give the same for it. -/
theorem of_agree (h : store.Accepts service)
    (hagree : disk.Agree disk' store.directory directory (OwnName service)) :
    store.AlikeFor service disk disk' := by
  refine of_invariant (R := fun disk disk' ↦
    disk.Agree disk' store.directory directory (OwnName service)) ?_ ?_ hagree
  · intro disk disk' hsame
    exact (h.local_read.congr disk disk' hsame).1
  · rintro call rfl disk disk' hsame
    exact h.local_perform.congr disk disk' hsame

end AlikeFor

/-! ### Directories that are made for the files -/

/-- The directory of the store can be made, and has then no files of the services. -/
structure Makeable (store : Store) (services : String → Prop) (directory : Location)
    (disk made : Disk) : Prop where
  wellFormed : disk.WellFormed
  ensure : Disk.ensureDirectory store.directory disk = (.ok (), made)
  clear : made.Clear store.directory directory (OwnNames services)
  absent : ∀ service, services service → made.tree.get? (directory ++ [fileName service]) = none

namespace Makeable

theorem grows (h : store.Makeable services directory disk made) : disk.Grows made := by
  have hgrows := Disk.Grows.ensureDirectory store.directory disk
  rwa [h.ensure] at hgrows

section

variable (h : store.Makeable services directory disk made) (hservice : services service)
  (haccepts : store.Accepts service)

include h hservice haccepts

/-- The file of a service is found neither before the directory is made nor after it. -/
theorem read_eq : made.read (store.path service) = disk.read (store.path service) := by
  rw [path_eq, h.clear.leads.read_of_grows haccepts.fits_file (h.absent service hservice) h.grows
    h.wellFormed, Disk.read, h.clear.locate_eq haccepts.fits_file ⟨service, hservice, .inl rfl⟩]
  dsimp only
  rw [h.absent service hservice]

/-- There is nothing to be removed before the directory is made. -/
theorem remove_eq : store.remove service disk = (.ok false, disk) := by
  rw [Store.remove_eq]
  dsimp only
  rw [path_eq, h.clear.leads.remove_of_grows haccepts.fits_file (h.absent service hservice) h.grows
    h.wellFormed]
  rfl

/-- There is nothing to be removed after it. -/
theorem remove_made_eq : store.remove service made = (.ok false, made) := by
  have hremove : Disk.remove (store.path service) made = (.error .notFound, made) := by
    rw [path_eq, Disk.remove_eq, h.clear.locateSelf_eq haccepts.fits_file]
    dsimp only
    rw [h.absent service hservice]
  rw [Store.remove_eq]
  dsimp only
  rw [hremove]
  rfl

omit hservice in
theorem save_eq (state : State) : store.save state disk = store.save state made := by
  rw [Store.save_eq, Store.save_eq, h.ensure,
    h.clear.leads.ensureDirectory_of_fits haccepts.fits_file]

end

/-- A call does the same before and after the directory is made, and makes it, if it saves a
state. -/
theorem perform_eq (h : store.Makeable services directory disk made)
    (hservice : services call.service) (haccepts : store.Accepts call.service) :
    store.perform call disk = store.perform call made ∨
      (∀ state, call ≠ .save state) ∧ ∃ answer, store.perform call disk = (answer, disk) ∧
        store.perform call made = (answer, made) := by
  cases call with
  | save state => exact .inl (by rw [perform, perform, h.save_eq haccepts])
  | load service =>
    have hread : made.read (store.path service) = disk.read (store.path service) :=
      h.read_eq hservice haccepts
    refine .inr ⟨fun _ ↦ StoreCall.noConfusion, _, rfl, ?_⟩
    rw [perform, load_eq, load_eq, hread]
  | remove service =>
    have hbefore : store.remove service disk = (.ok false, disk) := h.remove_eq hservice haccepts
    have hafter : store.remove service made = (.ok false, made) :=
      h.remove_made_eq hservice haccepts
    refine .inr ⟨fun _ ↦ StoreCall.noConfusion, .removed (.ok false), ?_, ?_⟩
    · rw [perform, hbefore]
    · rw [perform, hafter]

/-- Whether the directory is made makes no difference to any service of these. -/
theorem alikeFor (h : store.Makeable services directory disk made) (hservice : services service)
    (haccepts : store.Accepts service) : store.AlikeFor service disk made := by
  refine AlikeFor.of_invariant (R := fun x y ↦ y = x ∨ x = disk ∧ y = made) ?_ ?_
    (.inr ⟨rfl, rfl⟩)
  · rintro x y (rfl | ⟨rfl, rfl⟩)
    · rfl
    · exact h.read_eq hservice haccepts
  · rintro call rfl x y (rfl | ⟨rfl, rfl⟩)
    · exact ⟨rfl, .inl rfl⟩
    · obtain hsame | ⟨-, answer, hbefore, hafter⟩ := h.perform_eq hservice haccepts
      · rw [hsame]
        exact ⟨rfl, .inl rfl⟩
      · rw [hbefore, hafter]
        exact ⟨rfl, .inr ⟨rfl, rfl⟩⟩

section

variable (h : store.Makeable services directory disk made)
  (haccepts : ∀ service, services service → store.Accepts service)
  (hcalls : ∀ call ∈ calls, services call.service)

include h haccepts hcalls

/-- Calls that save nothing leave the directory to be made. -/
theorem after_eq_self (hsave : ∀ state, .save state ∉ calls) : store.after calls disk = disk := by
  induction calls with
  | nil => rfl
  | cons call calls ih =>
    obtain ⟨hcall, hrest⟩ := List.forall_mem_cons.1 hcalls
    have hkept : (store.perform call disk).2 = disk := by
      cases call with
      | save state => exact absurd List.mem_cons_self (hsave state)
      | load service => rfl
      | remove service => exact congrArg Prod.snd (h.remove_eq hcall (haccepts _ hcall))
    show store.after calls (store.perform call disk).2 = disk
    rw [hkept]
    exact ih hrest fun state hmem ↦ hsave state (List.mem_cons_of_mem _ hmem)

/-- Where a state is saved, it makes no difference whether the directory was there. -/
theorem after_eq (hsave : ∃ state, .save state ∈ calls) :
    store.after calls disk = store.after calls made := by
  induction calls with
  | nil => simp at hsave
  | cons call calls ih =>
    obtain ⟨hcall, hrest⟩ := List.forall_mem_cons.1 hcalls
    show store.after calls (store.perform call disk).2 =
      store.after calls (store.perform call made).2
    -- The first call that saves a state makes the directory, and those before it change nothing.
    obtain hsame | ⟨hother, answer, hbefore, hafter⟩ := h.perform_eq hcall (haccepts _ hcall)
    · rw [hsame]
    · rw [hbefore, hafter]
      obtain ⟨state, hmem⟩ := hsave
      refine ih hrest ⟨state, ?_⟩
      exact (List.mem_cons.1 hmem).resolve_left fun heq ↦ hother state heq.symm

end

end Makeable

/-! ### Settled disks -/

/-- The directory of the store is there and no file of the services is a link, or it can be made and
has then none of these files, or it cannot be made and nothing of it is. -/
inductive Settled (store : Store) (services : String → Prop) (disk : Disk) : Prop
  | there (directory : Location) (h : disk.Clear store.directory directory (OwnNames services))
  | makeable (directory : Location) (made : Disk) (h : store.Makeable services directory disk made)
  | unmakeable (kind : IoKind)
      (h : Disk.ensureDirectory store.directory disk = (.error kind, disk))

/-- Where the directory cannot be made, nothing is changed. -/
theorem perform_of_unmakeable {kind : IoKind} (h : store.Accepts call.service)
    (hensure : Disk.ensureDirectory store.directory disk = (.error kind, disk)) :
    (store.perform call disk).2 = disk := by
  cases call with
  | save state => rw [perform, save_eq, hensure]
  | load service => rfl
  | remove service =>
    rw [perform, remove_eq]
    obtain hsame | ⟨place, hlocate, -⟩ := Disk.remove_cases (store.path service) disk
    · exact hsame
    -- A file that is found is in the directory, which is there then and need not be made.
    · obtain ⟨directory, hleads, -⟩ :=
        Disk.exists_leadsTo_of_locateSelf h.fits_file.isFileName hlocate
      rw [hleads.ensureDirectory_of_fits h.fits_file] at hensure
      cases hensure

/-- Where the directory cannot be made, no calls change anything. -/
theorem after_of_unmakeable {kind : IoKind} (h : ∀ call ∈ calls, store.Accepts call.service)
    (hensure : Disk.ensureDirectory store.directory disk = (.error kind, disk)) :
    store.after calls disk = disk := by
  induction calls with
  | nil => rfl
  | cons call calls ih =>
    obtain ⟨hcall, hrest⟩ := List.forall_mem_cons.1 h
    show store.after calls (store.perform call disk).2 = disk
    rw [perform_of_unmakeable hcall hensure]
    exact ih hrest

/-- A call in a directory that is there. -/
theorem perform_of_clear (hclear : disk.Clear store.directory directory (OwnNames services))
    (haccepts : ∀ service, services service → store.Accepts service)
    (hcall : services call.service) : store.Settled services (store.perform call disk).2 ∧
      ∀ other, services other → other ≠ call.service →
        store.AlikeFor other disk (store.perform call disk).2 := by
  have hown : ∀ name, OwnName call.service name → OwnNames services name :=
    fun name hname ↦ ⟨call.service, hcall, hname⟩
  have hlocal : Disk.Local store.directory directory (OwnName call.service) (store.perform call) :=
    (haccepts _ hcall).local_perform
  refine ⟨.there directory (hlocal.clear hclear hown), fun other hother hne ↦ ?_⟩
  refine .of_agree (haccepts other hother)
    (hlocal.agree (fun name hname ↦ ?_) (hclear.mono ?_))
  · exact hname.not_of_ne hne.symm (haccepts _ hcall).nonempty (haccepts other hother).nonempty
  · rintro name (hname | hname)
    · exact hown name hname
    · exact ⟨other, hother, hname⟩

/-- A call about one of the services leaves a settled disk, and what the store gives for the
others. -/
theorem Settled.perform (h : store.Settled services disk)
    (haccepts : ∀ service, services service → store.Accepts service)
    (hcall : services call.service) : store.Settled services (store.perform call disk).2 ∧
      ∀ other, services other → other ≠ call.service →
        store.AlikeFor other disk (store.perform call disk).2 := by
  cases h with
  | there directory hclear => exact perform_of_clear hclear haccepts hcall
  | makeable directory made hmakeable =>
    obtain hsame | ⟨-, answer, hbefore, -⟩ := hmakeable.perform_eq hcall (haccepts _ hcall)
    · obtain ⟨hsettled, halike⟩ := perform_of_clear hmakeable.clear haccepts hcall
      rw [hsame]
      exact ⟨hsettled, fun other hother hne ↦
        (hmakeable.alikeFor hother (haccepts other hother)).trans (halike other hother hne)⟩
    · rw [hbefore]
      exact ⟨.makeable directory made hmakeable, fun other _ _ ↦ .refl store other disk⟩
  | unmakeable kind hensure =>
    rw [perform_of_unmakeable (haccepts _ hcall) hensure]
    exact ⟨.unmakeable kind hensure, fun other _ _ ↦ .refl store other disk⟩

/-! ### Calls about two services -/

section

variable (haccepts : store.Accepts service) (haccepts' : store.Accepts other)
  (hne : service ≠ other) (hcalls : ∀ call ∈ calls, call.service = service)
  (hcalls' : ∀ call ∈ calls', call.service = other)

include haccepts haccepts' hne hcalls hcalls'

/-- Calls about two services can change places in a directory that is there. -/
theorem sameBut_swap_of_clear (hclear : disk.Clear store.directory directory
    (OwnNames fun s ↦ s = service ∨ s = other)) :
    (store.after calls' (store.after calls disk)).SameBut (fun _ ↦ False)
      (store.after calls (store.after calls' disk)) := by
  refine (haccepts.local_after hcalls).sameBut_swap (haccepts'.local_after hcalls')
    (fun name hname ↦ ?_) (hclear.mono ?_)
  · exact hname.not_of_ne hne haccepts.nonempty haccepts'.nonempty
  · rintro name (hname | hname)
    · exact ⟨service, .inl rfl, hname⟩
    · exact ⟨other, .inr rfl, hname⟩

/-- **Calls about two services can change places.** -/
theorem Settled.sameBut_swap (h : store.Settled (fun s ↦ s = service ∨ s = other) disk) :
    (store.after calls' (store.after calls disk)).SameBut (fun _ ↦ False)
      (store.after calls (store.after calls' disk)) := by
  have hall : ∀ s, s = service ∨ s = other → store.Accepts s := by
    rintro s (rfl | rfl)
    · exact haccepts
    · exact haccepts'
  have hfirst : ∀ call ∈ calls, call.service = service ∨ call.service = other :=
    fun call hcall ↦ .inl (hcalls call hcall)
  have hsecond : ∀ call ∈ calls', call.service = service ∨ call.service = other :=
    fun call hcall ↦ .inr (hcalls' call hcall)
  cases h with
  | there directory hclear =>
    exact sameBut_swap_of_clear haccepts haccepts' hne hcalls hcalls' hclear
  | makeable directory made hmakeable =>
    have hboth := List.forall_mem_append.2 ⟨hfirst, hsecond⟩
    have hboth' := List.forall_mem_append.2 ⟨hsecond, hfirst⟩
    -- Both runs make the directory, or neither does, as it is made where a state is saved.
    by_cases hsave : ∃ state, .save state ∈ calls ++ calls'
    · have hsave' : ∃ state, .save state ∈ calls' ++ calls := by
        obtain ⟨state, hmem⟩ := hsave
        exact ⟨state, List.mem_append.2 (List.mem_append.1 hmem).symm⟩
      rw [← after_append, ← after_append, hmakeable.after_eq hall hboth hsave,
        hmakeable.after_eq hall hboth' hsave', after_append, after_append]
      exact sameBut_swap_of_clear haccepts haccepts' hne hcalls hcalls' hmakeable.clear
    · have hnone : ∀ state, .save state ∉ calls ++ calls' := fun state hmem ↦ hsave ⟨state, hmem⟩
      have hnone' : ∀ state, .save state ∉ calls' ++ calls := fun state hmem ↦
        hnone state (List.mem_append.2 (List.mem_append.1 hmem).symm)
      rw [← after_append, ← after_append, hmakeable.after_eq_self hall hboth hnone,
        hmakeable.after_eq_self hall hboth' hnone']
      exact .refl _ disk
  | unmakeable kind hensure =>
    have hkept := after_of_unmakeable (fun call hcall ↦ hall _ (hfirst call hcall)) hensure
    have hkept' := after_of_unmakeable (fun call hcall ↦ hall _ (hsecond call hcall)) hensure
    rw [hkept, hkept', hkept]
    exact .refl _ disk

end

end ServerSetup.Rollback.Store
