import ServerSetup.Proofs.Disk.Walk
import ServerSetup.Proofs.Operation

/-!
# Operations on a disk by path

What each operation on files does, as one equation: where it fails, and how the tree changes where
it does not. Making directories takes nothing away (`Grows`).

An operation first finds the location that a path leads to, then looks at what is there, and then
asks the disk, which may refuse each single action at each location. The equations state these in
the order of the operation, since the order decides which failure is reported. All later facts about
an operation start from its equation and never open its definition.

Creating and writing follow a link at the end of the path, removing and renaming do not. A copy is
described with its special case: source and target may be the same file, and then it ends up empty
(`copied`). Directories are made from the path upwards: only if the first attempt finds nothing
above are the directories above made, and then the attempt is repeated. Properties that one attempt
keeps are kept by the whole (`of_ensureUpwards`), which is how growth, well-formed trees and
footprints get through the recursion.
-/

namespace ServerSetup

namespace Disk

variable {d d' : Disk} {path : String} {place spot : Location} {kind : IoKind}
  {content : List UInt8}

/-! ### Files -/

/-- An action that the disk may refuse. -/
theorem act_eq {action : FileAction} {change : FileTree → FileTree} :
    act action change d = match d.refuses action with
      | some kind => (.error kind, d)
      | none => (.ok (), { d with tree := change d.tree }) := by
  show (match d.refuses action with
    | some kind => throw kind
    | none => set { d with tree := change d.tree } : DiskM Unit) d = _
  rcases d.refuses action with - | kind <;> rfl

/-- Creating a file: what is there is emptied. -/
theorem create_eq (hslash : Path.endsWithSlash path = false) :
    create path d = match d.locate path with
      | .error kind => (.error kind, d)
      | .ok place =>
        if d.tree.isDirectory place then (.error .isADirectory, d)
        else match d.refuses (.create place) with
          | some kind => (.error kind, d)
          | none => (.ok place, { d with tree := d.tree.put place (.file []) }) := by
  simp only [create, hslash, Bool.false_eq_true, if_false]
  show ((d.locate path : DiskM Location) >>= _) d = _
  rcases d.locate path with kind | place
  · rfl
  · show (ite (d.tree.isDirectory place = true) _ _ : DiskM Location) d = ite _ _ _
    rcases d.tree.isDirectory place with - | -
    · show (act _ _ >>= _ : DiskM Location) d = _
      rw [StateExcept.bind_eq, act_eq, if_neg Bool.false_ne_true]
      rcases d.refuses (.create place) with - | kind <;> rfl
    · rfl

/-- A file cannot be created at a path that ends with a slash. -/
theorem create_ne_ok (hslash : Path.endsWithSlash path = true) :
    create path d ≠ (.ok place, d') := by
  have hcreate : create path d = match d.locateSelf path with
      | .error kind => (.error kind, d)
      | .ok _ => (.error .isADirectory, d) := by
    simp only [create, hslash, if_true]
    show ((d.locateSelf path : DiskM Location) >>= _) d = _
    rcases d.locateSelf path with kind | place <;> rfl
  rw [hcreate]
  split <;> exact nofun

/-- Writing a file. A failure while flushing leaves what was written. -/
theorem write_eq : write path content d = match create path d with
      | (.error kind, d) => (.error kind, d)
      | (.ok place, d) => match d.refuses (.write place) with
        | some kind => (.error kind, d)
        | none => match d.refuses (.flush place) with
          | some kind => (.error kind, { d with tree := d.tree.put place (.file content) })
          | none => (.ok (), { d with tree := d.tree.put place (.file content) }) := by
  rw [write, StateExcept.bind_eq]
  rcases create path d with ⟨kind | place, d⟩
  · rfl
  · dsimp only
    rw [StateExcept.bind_eq, act_eq]
    rcases d.refuses (.write place) with - | kind
    · dsimp only
      rw [act_eq]
      rcases d.refuses (.flush place) with - | kind <;> rfl
    · rfl

/-- Removing a file or a link. -/
theorem remove_eq : remove path d = match d.locateSelf path with
      | .error kind => (.error kind, d)
      | .ok place => match d.tree.get? place with
        | none => (.error .notFound, d)
        | some .directory => (.error .isADirectory, d)
        | some _ =>
          if Path.endsWithSlash path then (.error .notADirectory, d)
          else match d.refuses (.remove place) with
            | some kind => (.error kind, d)
            | none => (.ok (), { d with tree := d.tree.erase place }) := by
  have hremove {place : Location} : (do
        if Path.endsWithSlash path then throw .notADirectory
        act (.remove place) (·.erase place) : DiskM Unit) d =
      if Path.endsWithSlash path then (.error .notADirectory, d)
      else match d.refuses (.remove place) with
        | some kind => (.error kind, d)
        | none => (.ok (), { d with tree := d.tree.erase place }) := by
    rcases Path.endsWithSlash path with - | -
    · show act (.remove place) (·.erase place) d = _
      rw [act_eq, if_neg Bool.false_ne_true]
      rcases d.refuses (.remove place) with - | kind <;> rfl
    · rfl
  show ((d.locateSelf path : DiskM Location) >>= _) d = _
  rcases d.locateSelf path with kind | place
  · rfl
  · show (match d.tree.get? place with
      | none => throw .notFound
      | some .directory => throw .isADirectory
      | some _ => do
        if Path.endsWithSlash path then throw .notADirectory
        act (.remove place) (·.erase place) : DiskM Unit) d = match d.tree.get? place with
      | none => (.error .notFound, d)
      | some .directory => (.error .isADirectory, d)
      | some _ => _
    rcases d.tree.get? place with - | content | - | target
    · rfl
    · exact hremove
    · rfl
    · exact hremove

/-- Renaming a file or a link. The target is replaced, unless it is a directory. -/
theorem rename_eq {source target : String} : rename source target d = match d.locateSelf source with
      | .error kind => (.error kind, d)
      | .ok place => match d.tree.get? place with
        | none => (.error .notFound, d)
        | some .directory => (.error .isADirectory, d)
        | some entry => match d.locateSelf target with
          | .error kind => (.error kind, d)
          | .ok goal =>
            if goal = place then (.ok (), d)
            else if d.tree.isDirectory goal then (.error .isADirectory, d)
            else match d.refuses (.rename place goal) with
              | some kind => (.error kind, d)
              | none => (.ok (), { d with tree := (d.tree.erase place).put goal entry }) := by
  have hrename {place : Location} {entry : Entry} : (do
        let goal ← d.locateSelf target
        if goal = place then return
        if d.tree.isDirectory goal then throw .isADirectory
        act (.rename place goal) fun t ↦ (t.erase place).put goal entry : DiskM Unit) d =
      match d.locateSelf target with
        | .error kind => (.error kind, d)
        | .ok goal =>
          if goal = place then (.ok (), d)
          else if d.tree.isDirectory goal then (.error .isADirectory, d)
          else match d.refuses (.rename place goal) with
            | some kind => (.error kind, d)
            | none => (.ok (), { d with tree := (d.tree.erase place).put goal entry }) := by
    rcases d.locateSelf target with kind | goal
    · rfl
    · show (ite (goal = place) _ _ : DiskM Unit) d = ite (goal = place) _ (ite _ _ _)
      split
      · rfl
      · rcases d.tree.isDirectory goal with - | -
        · show act (.rename place goal) (fun t ↦ (t.erase place).put goal entry) d = _
          rw [act_eq, if_neg Bool.false_ne_true]
        · rfl
  show ((d.locateSelf source : DiskM Location) >>= _) d = _
  rcases d.locateSelf source with kind | place
  · rfl
  · show (match d.tree.get? place with
      | none => throw .notFound
      | some .directory => throw .isADirectory
      | some entry => do
        let goal ← d.locateSelf target
        if goal = place then return
        if d.tree.isDirectory goal then throw .isADirectory
        act (.rename place goal) fun t ↦ (t.erase place).put goal entry : DiskM Unit) d =
      match d.tree.get? place with
      | none => (.error .notFound, d)
      | some .directory => (.error .isADirectory, d)
      | some _ => _
    rcases d.tree.get? place with - | content | - | target
    · rfl
    · exact hrename
    · rfl
    · exact hrename

/-- What is removed is a file or a link. -/
theorem remove_of_some {entry : Entry} (hlocate : d.locateSelf path = .ok place)
    (hentry : d.tree.get? place = some entry) (hfile : entry ≠ .directory) :
    remove path d = if Path.endsWithSlash path then (.error .notADirectory, d)
      else act (.remove place) (·.erase place) d := by
  rw [remove_eq, hlocate, act_eq]
  dsimp only
  rw [hentry]
  cases entry with
  | directory => exact absurd rfl hfile
  | _ => rfl

/-- What is renamed is a file or a link. -/
theorem rename_of_some {source target : String} {goal : Location} {entry : Entry}
    (hlocate : d.locateSelf source = .ok place) (hentry : d.tree.get? place = some entry)
    (hfile : entry ≠ .directory) (hgoal : d.locateSelf target = .ok goal) :
    rename source target d = if goal = place then (.ok (), d)
      else if d.tree.isDirectory goal then (.error .isADirectory, d)
      else act (.rename place goal) (fun t ↦ (t.erase place).put goal entry) d := by
  rw [rename_eq, hlocate, hgoal, act_eq]
  dsimp only
  rw [hentry]
  cases entry with
  | directory => exact absurd rfl hfile
  | _ => rfl

/-- What a copy writes, where the target may have been the source. -/
def copied (t : FileTree) (place : Location) : List UInt8 :=
  match t.get? place with
  | some (.file content) => content
  | _ => []

/-- Copying a file. The target is emptied before the source is read. -/
theorem copy_eq {source target : String} : copy source target d = match d.locate source with
      | .error kind => (.error kind, d)
      | .ok place => match d.tree.get? place with
        | none => (.error .notFound, d)
        | some (.file _) => match d.refuses (.read place) with
          | some kind => (.error kind, d)
          | none => match create target d with
            | (.error kind, d) => (.error kind, d)
            | (.ok goal, d) => match d.refuses (.write goal) with
              | some kind => (.error kind, d)
              | none => (.ok (),
                { d with tree := d.tree.put goal (.file (copied d.tree place)) })
        | some _ => (.error .invalidInput, d) := by
  have hcopy {place : Location} : (match d.refuses (.read place) with
      | some kind => throw kind
      | none => do
        let goal ← create target
        act (.write goal) (·.put goal (.file (copied (← get).tree place))) : DiskM Unit) d =
      match d.refuses (.read place) with
      | some kind => (.error kind, d)
      | none => match create target d with
        | (.error kind, d) => (.error kind, d)
        | (.ok goal, d) => match d.refuses (.write goal) with
          | some kind => (.error kind, d)
          | none => (.ok (), { d with tree := d.tree.put goal (.file (copied d.tree place)) }) := by
    rcases d.refuses (.read place) with - | kind
    · show (create target >>= _ : DiskM Unit) d = _
      rw [StateExcept.bind_eq]
      rcases create target d with ⟨kind | goal, d⟩
      · rfl
      · show act (.write goal) (·.put goal (.file (copied d.tree place))) d = _
        rw [act_eq]
    · rfl
  show ((d.locate source : DiskM Location) >>= _) d = _
  rcases d.locate source with kind | place
  · rfl
  · show (match d.tree.get? place with
      | none => throw .notFound
      | some (.file _) => match d.refuses (.read place) with
        | some kind => throw kind
        | none => do
          let goal ← create target
          act (.write goal) (·.put goal (.file (copied (← get).tree place)))
      | some _ => throw .invalidInput : DiskM Unit) d = match d.tree.get? place with
      | none => (.error .notFound, d)
      | some (.file _) => _
      | some _ => (.error .invalidInput, d)
    rcases d.tree.get? place with - | content | - | target
    · rfl
    · exact hcopy
    · rfl
    · rfl

/-! ### Making directories -/

/-- A path leads to a directory exactly if there is one where it ends. -/
theorem isDirectory_iff : d.isDirectory path = true ↔
    ∃ place, d.locate path = .ok place ∧ d.tree.isDirectory place = true := by
  rw [isDirectory, find?]
  rcases d.locate path with kind | place
  · refine iff_of_false Bool.false_ne_true ?_
    rintro ⟨place, hlocate, -⟩
    cases hlocate
  · dsimp only
    rcases hentry : d.tree.get? place with - | content | - | target <;>
      simp [FileTree.isDirectory, hentry]

/-- Making a directory. -/
theorem makeDirectory_eq : makeDirectory path d = match d.locateSelf path with
      | .error kind => (.error kind, d)
      | .ok place =>
        if (d.tree.get? place).isSome then (.error .alreadyExists, d)
        else match d.refuses (.makeDirectory place) with
          | some kind => (.error kind, d)
          | none => (.ok (), { d with tree := d.tree.put place .directory }) := by
  show ((d.locateSelf path : DiskM Location) >>= _) d = _
  rcases d.locateSelf path with kind | place
  · rfl
  · show (ite ((d.tree.get? place).isSome = true) _ _ : DiskM Unit) d = ite _ _ _
    rcases (d.tree.get? place).isSome with - | -
    · show act (.makeDirectory place) (·.put place .directory) d = _
      rw [act_eq, if_neg Bool.false_ne_true]
    · rfl

/-- Making sure of a directory whose directory above is there. -/
theorem ensureOneDirectory_eq : ensureOneDirectory path d = match makeDirectory path d with
      | (.ok (), d) => (.ok (), d)
      | (.error kind, d) => if d.isDirectory path then (.ok (), d) else (.error kind, d) := by
  rw [ensureOneDirectory, StateExcept.tryCatch_eq]
  rcases makeDirectory path d with ⟨kind | -, d⟩
  · show (ite (d.isDirectory path = true) _ _ : DiskM Unit) d = _
    dsimp only
    split <;> rfl
  · rfl

/-- Making sure of a directory: what is above it is made first if it is missing. -/
theorem ensureUpwards_cons_eq {above : List String} :
    ensureUpwards (path :: above) d = match makeDirectory path d with
      | (.ok (), d) => (.ok (), d)
      | (.error kind, d) =>
        if kind = .notFound then (do ensureUpwards above; ensureOneDirectory path : DiskM Unit) d
        else if d.isDirectory path then (.ok (), d)
        else (.error kind, d) := by
  rw [ensureUpwards, StateExcept.bind_eq, StateExcept.tryCatch_eq, StateExcept.bind_eq]
  rcases makeDirectory path d with ⟨kind | -, d⟩
  · have hcatch : (if kind = .notFound then pure false
        else do if (← get).isDirectory path then pure true else throw kind : DiskM Bool) d =
        if kind = .notFound then (.ok false, d)
        else if d.isDirectory path then (.ok true, d)
        else (.error kind, d) := by
      split
      · rfl
      · show (ite (d.isDirectory path = true) _ _ : DiskM Bool) d = _
        split <;> rfl
    dsimp only
    rw [hcatch]
    by_cases hkind : kind = .notFound
    · rw [if_pos hkind, if_pos hkind]
      rfl
    · rw [if_neg hkind, if_neg hkind]
      by_cases hdir : d.isDirectory path = true
      · rw [if_pos hdir, if_pos hdir]
        rfl
      · rw [if_neg hdir, if_neg hdir]
  · rfl

section

variable {P : Disk → Prop} (hstep : ∀ path d, P d → P (makeDirectory path d).2)

include hstep

/-- What every attempt to make a directory keeps is kept by making sure of one. -/
theorem of_ensureOneDirectory (path : String) (h : P d) : P (ensureOneDirectory path d).2 := by
  have hmake := hstep path d h
  rw [ensureOneDirectory_eq]
  rcases hmade : makeDirectory path d with ⟨kind | ⟨⟩, d'⟩
  · rw [hmade] at hmake
    dsimp only
    split <;> exact hmake
  · rwa [hmade] at hmake

/-- So it is by making sure of a directory and of those above it. -/
theorem of_ensureUpwards (paths : List String) (h : P d) : P (ensureUpwards paths d).2 := by
  induction paths generalizing d with
  | nil => exact h
  | cons path above ih =>
    have hmake := hstep path d h
    rw [ensureUpwards_cons_eq]
    rcases hmade : makeDirectory path d with ⟨kind | ⟨⟩, d'⟩
    · rw [hmade] at hmake
      dsimp only
      split
      · have habove := ih hmake
        rw [StateExcept.bind_eq]
        rcases hall : ensureUpwards above d' with ⟨kind | ⟨⟩, d''⟩
        · rwa [hall] at habove
        · rw [hall] at habove
          exact of_ensureOneDirectory hstep path habove
      · split <;> exact hmake
    · rwa [hmade] at hmake

/-- **What the making of one directory keeps, the making of those above it keeps, too.** -/
theorem of_makeDirectory (path : String) (h : P d) : P (ensureDirectory path d).2 := by
  rw [ensureDirectory]
  split
  · exact h
  · exact of_ensureUpwards hstep _ h

end

/-- A disk has all that was on another one. -/
structure Grows (d d' : Disk) : Prop where
  workDirectory : d'.workDirectory = d.workDirectory
  refuses : d'.refuses = d.refuses
  get? : ∀ l entry, d.tree.get? l = some entry → d'.tree.get? l = some entry

namespace Grows

theorem refl (d : Disk) : d.Grows d := ⟨rfl, rfl, fun _ _ h ↦ h⟩

theorem trans {d'' : Disk} (h : d.Grows d') (h' : d'.Grows d'') : d.Grows d'' where
  workDirectory := h'.workDirectory.trans h.workDirectory
  refuses := h'.refuses.trans h.refuses
  get? l entry hentry := h'.get? l entry (h.get? l entry hentry)

/-- Making a directory takes nothing away. -/
theorem makeDirectory (path : String) (d : Disk) : d.Grows (Disk.makeDirectory path d).2 := by
  rw [makeDirectory_eq]
  split
  · exact refl d
  · next place hplace =>
    split
    · exact refl d
    · next hnone =>
      split
      · exact refl d
      · refine ⟨rfl, rfl, fun l entry hentry ↦ ?_⟩
        have hne : l ≠ place := by
          rintro rfl
          rw [hentry] at hnone
          exact hnone rfl
        exact (FileTree.get?_put_of_ne _ hne _).trans hentry

/-- Making directories takes nothing away. -/
theorem ensureDirectory (path : String) (d : Disk) : d.Grows (Disk.ensureDirectory path d).2 :=
  of_makeDirectory (fun path d' h ↦ h.trans (makeDirectory path d')) path (refl d)

/-- A path still leads to what it led to. -/
theorem locateSteps {entry : Entry} {follow : Bool} {steps : List String} (h : d.Grows d')
    (hlocate : d.locateSteps follow path steps = .ok spot)
    (hentry : d.tree.get? spot = some entry) : d'.locateSteps follow path steps = .ok spot := by
  rw [Disk.locateSteps] at hlocate ⊢
  rw [h.workDirectory]
  split at hlocate
  · cases hlocate
  · next hnul =>
    split at hlocate
    · cases hlocate
    · next hempty =>
      split at hlocate
      · cases hlocate
      · next hlong =>
        rw [if_neg hnul, if_neg hempty, if_neg hlong, FileTree.walk_eq_ok_iff]
        exact (FileTree.walk_eq_ok_iff.1 hlocate).of_extends (fun l entry hl _ ↦ h.get? l entry hl)
          hentry (h.get? spot entry hentry)

end Grows

/-- A removal that fails changes nothing. -/
theorem eq_of_remove_eq_error (h : remove path d = (.error kind, d')) : d' = d := by
  rw [remove_eq] at h
  split at h
  · cases h
    rfl
  · split at h
    · cases h
      rfl
    · cases h
      rfl
    · split at h
      · cases h
        rfl
      · split at h
        · cases h
          rfl
        · cases h

/-- A renaming that fails changes nothing. -/
theorem eq_of_rename_eq_error {source target : String}
    (h : rename source target d = (.error kind, d')) : d' = d := by
  rw [rename_eq] at h
  split at h
  · cases h
    rfl
  · split at h
    · cases h
      rfl
    · cases h
      rfl
    · split at h
      · cases h
        rfl
      · split at h
        · cases h
        · split at h
          · cases h
            rfl
          · split at h
            · cases h
              rfl
            · cases h

end Disk

end ServerSetup
