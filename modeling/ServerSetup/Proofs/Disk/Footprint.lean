import ServerSetup.Proofs.Disk.Looks

/-!
# What an operation on a disk keeps to

An operation keeps to some locations if it leaves what is elsewhere as it is, but for directories
that it makes, and if the files elsewhere make no difference to it: neither what is in them, nor
what the disk refuses for them (`KeepsTo`). An operation on files keeps to the locations that its
paths lead to, and a sequence keeps to what its steps keep to.

The second half of the definition compares the operation on two disks. They are the same within the
locations and have the same shape everywhere (`LooksLike`): the same directories and links, and
files at the same places, with any contents. The shape has to be the same everywhere because a walk
goes through directories and links that belong to nobody. For the same reason making a directory is
not counted as touching anything.

Locations, not paths, are what an operation keeps to. A path that runs through a link may lead to a
location far away from what its text says; the condition on the paths in `write`, `remove` and
`rename` is therefore about where they lead on the given disk.
-/

namespace ServerSetup

/-- The locations of the files that an action reads or changes. -/
def FileAction.files : FileAction → List Location
  | makeDirectory _ => []
  | create place => [place]
  | write place => [place]
  | flush place => [place]
  | rename source target => [source, target]
  | remove place => [place]
  | read place => [place]

namespace FileTree

variable {within : Location → Prop} {t t' : FileTree}

/-- What is in a tree after an entry was put into it. -/
theorem get?_put (t : FileTree) (place : Location) (entry : Entry) (l : Location) :
    (t.put place entry).get? l = if l = place ∧ l ≠ [] then some entry else t.get? l := by
  by_cases hl : l = place
  · by_cases hroot : l = []
    · rw [if_neg (fun h ↦ h.2 hroot), hroot]
      rfl
    · rw [if_pos ⟨hl, hroot⟩, hl, get?_put_self t (hl ▸ hroot)]
  · rw [if_neg (fun h ↦ hl h.1), get?_put_of_ne t hl]

/-- What is in a tree after an entry was erased. -/
theorem get?_erase (t : FileTree) (place l : Location) :
    (t.erase place).get? l = if l = place ∧ l ≠ [] then none else t.get? l := by
  by_cases hl : l = place
  · by_cases hroot : l = []
    · rw [if_neg (fun h ↦ h.2 hroot), hroot]
      rfl
    · rw [if_pos ⟨hl, hroot⟩, hl, get?_erase_self t (hl ▸ hroot)]
  · rw [if_neg (fun h ↦ hl h.1), get?_erase_of_ne t hl]

/-- Two trees are the same within some locations, and have the same shape everywhere. -/
structure LooksLike (within : Location → Prop) (t t' : FileTree) : Prop where
  content : ∀ l, within l → t'.get? l = t.get? l
  shape : ∀ l, t.SameShape t' l

namespace LooksLike

/-- Trees that look alike do so after the same entry was put into both. -/
theorem put (h : t.LooksLike within t') (place : Location) (entry : Entry) :
    (t.put place entry).LooksLike within (t'.put place entry) where
  content l hl := by rw [get?_put, get?_put, h.content l hl]
  shape l := by
    rw [SameShape, get?_put, get?_put]
    split
    · rfl
    · exact h.shape l

/-- Trees that look alike do so after the same entry was erased in both. -/
theorem erase (h : t.LooksLike within t') (place : Location) :
    (t.erase place).LooksLike within (t'.erase place) where
  content l hl := by rw [get?_erase, get?_erase, h.content l hl]
  shape l := by
    rw [SameShape, get?_erase, get?_erase]
    split
    · rfl
    · exact h.shape l

end LooksLike

end FileTree

namespace Disk

variable {within : Location → Prop} {d d' d'' : Disk} {path : String} {place : Location}
  {content : List UInt8} {α β ε : Type}

/-- Two disks are the same to those who read and change files within some locations only. -/
structure LooksLike (within : Location → Prop) (d d' : Disk) : Prop where
  workDirectory : d'.workDirectory = d.workDirectory
  refuses : ∀ action, (∀ l ∈ action.files, within l) → d'.refuses action = d.refuses action
  tree : d.tree.LooksLike within d'.tree

/-- Nothing has changed outside some locations, but for directories that were made. -/
def Spares (within : Location → Prop) (d d' : Disk) : Prop :=
  ∀ l, ¬ within l → d'.tree.get? l = d.tree.get? l ∨
    d.tree.get? l = none ∧ d'.tree.get? l = some .directory

/-- An operation keeps to some locations: it spares what is elsewhere, and the files elsewhere make
no difference to it. -/
structure KeepsTo (within : Location → Prop) (op : Disk → α × Disk) (d : Disk) : Prop where
  spares : d.Spares within (op d).2
  blind : ∀ d', d.LooksLike within d' → (op d').1 = (op d).1 ∧ (op d).2.LooksLike within (op d').2

theorem Spares.refl (within : Location → Prop) (d : Disk) : d.Spares within d :=
  fun _ _ ↦ .inl rfl

/-- What is spared twice in a row is spared. -/
theorem Spares.trans (h : d.Spares within d') (h' : d'.Spares within d'') :
    d.Spares within d'' := by
  intro l hl
  obtain hsame | ⟨hnone, hmade⟩ := h l hl
  · rw [← hsame]
    exact h' l hl
  · obtain hsame' | ⟨hnone', -⟩ := h' l hl
    · exact .inr ⟨hnone, hsame'.trans hmade⟩
    · rw [hmade] at hnone'
      cases hnone'

/-! ### What looks the same -/

namespace LooksLike

theorem refl (within : Location → Prop) (d : Disk) : d.LooksLike within d :=
  ⟨rfl, fun _ _ ↦ rfl, fun _ _ ↦ rfl, fun _ ↦ rfl⟩

theorem locateSteps_eq (h : d.LooksLike within d') (follow : Bool) (steps : List String) :
    d'.locateSteps follow path steps = d.locateSteps follow path steps := by
  rw [locateSteps, locateSteps, h.workDirectory]
  simp only [FileTree.walk_congr fun l _ ↦ h.tree.shape l]

theorem locate_eq (h : d.LooksLike within d') : d'.locate path = d.locate path :=
  h.locateSteps_eq true _

theorem locateSelf_eq (h : d.LooksLike within d') : d'.locateSelf path = d.locateSelf path :=
  h.locateSteps_eq false _

theorem isDirectory_eq (h : d.LooksLike within d') : d'.isDirectory path = d.isDirectory path := by
  rw [Bool.eq_iff_iff, isDirectory_iff, isDirectory_iff, h.locate_eq]
  simp only [(h.tree.shape _).isDirectory_eq]

/-- A file within the locations is read alike. -/
theorem read_eq (h : d.LooksLike within d')
    (hplace : ∀ place, d.locate path = .ok place → within place) : d'.read path = d.read path := by
  rw [read, read, h.locate_eq]
  rcases hlocate : d.locate path with kind | place
  · rfl
  · have hwithin := hplace place hlocate
    dsimp only
    rw [h.tree.content place hwithin,
      h.refuses (.read place) (List.forall_mem_singleton.2 hwithin)]

end LooksLike

/-- What is created is what the path leads to. -/
theorem locate_of_create (hslash : Path.endsWithSlash path = false)
    (hcreate : Disk.create path d = (.ok place, d')) : d.locate path = .ok place := by
  rw [create_eq hslash] at hcreate
  split at hcreate
  · cases hcreate
  · next spot hlocate =>
    split at hcreate
    · cases hcreate
    · split at hcreate
      · cases hcreate
      · cases hcreate
        exact hlocate

/-! ### Sequences -/

namespace KeepsTo

/-- An answer that needs no disk. -/
theorem answer (a : α) : KeepsTo within (fun d ↦ (a, d)) d where
  spares := .refl within d
  blind _ h := ⟨rfl, h⟩

/-- What follows on an answer keeps to the locations, too. -/
theorem andThen {op : Disk → α × Disk} (hop : KeepsTo within op d) (next : α → Disk → β × Disk)
    (hnext : KeepsTo within (next (op d).1) (op d).2) :
    KeepsTo within (fun d ↦ next (op d).1 (op d).2) d where
  spares := hop.spares.trans hnext.spares
  blind d' hd' := by
    obtain ⟨hanswer, hlike⟩ := hop.blind d' hd'
    rw [hanswer]
    exact hnext.blind _ hlike

/-- What is made of the answer makes no difference to what is kept to. -/
theorem map {op : Disk → α × Disk} (h : KeepsTo within op d) (f : α → β) :
    KeepsTo within (fun d ↦ (f (op d).1, (op d).2)) d :=
  h.andThen (fun a d ↦ (f a, d)) (answer _)

/-- A sequence keeps to what its steps keep to. -/
theorem bind {op : ExceptT ε (StateM Disk) α} {f : α → ExceptT ε (StateM Disk) β}
    (hop : KeepsTo within op d) (hf : ∀ a d₁, op d = (.ok a, d₁) → KeepsTo within (f a) d₁) :
    KeepsTo within (op >>= f) d := by
  rw [StateExcept.bind_eq_bindCont]
  refine hop.andThen (ExceptT.bindCont f) ?_
  rcases hrun : op d with ⟨e | a, d₁⟩
  · exact answer _
  · exact hf a d₁ hrun

/-- So does an operation whose failure is caught. -/
theorem tryCatch {op : ExceptT ε (StateM Disk) α} {handle : ε → ExceptT ε (StateM Disk) α}
    (hop : KeepsTo within op d)
    (hhandle : ∀ e d₁, op d = (.error e, d₁) → KeepsTo within (handle e) d₁) :
    KeepsTo within (MonadExcept.tryCatch op handle) d := by
  rw [StateExcept.tryCatch_eq_caught]
  refine hop.andThen (StateExcept.caught handle) ?_
  rcases hrun : op d with ⟨e | a, d₁⟩
  · exact hhandle e d₁ hrun
  · exact answer _

/-- What an operation does on the disks that look the same is enough. -/
theorem congr {op : Disk → α × Disk} (op' : Disk → α × Disk)
    (h : ∀ d', d.LooksLike within d' → op d' = op' d') (hop : KeepsTo within op' d) :
    KeepsTo within op d where
  spares := by
    rw [h d (.refl within d)]
    exact hop.spares
  blind d' hd' := by
    rw [h d (.refl within d), h d' hd']
    exact hop.blind d' hd'

/-- An action keeps to the locations of its files, if the change does. -/
theorem act {action : FileAction} {change : FileTree → FileTree}
    (hfiles : ∀ l ∈ action.files, within l)
    (hspares : d.refuses action = none → d.Spares within { d with tree := change d.tree })
    (hlike : ∀ t', d.tree.LooksLike within t' →
      (change d.tree).LooksLike within (change t')) :
    KeepsTo within (Disk.act action change) d := by
  rcases hrefuses : d.refuses action with - | kind
  · refine ⟨?_, fun d' hd' ↦ ?_⟩
    · rw [act_eq, hrefuses]
      exact hspares hrefuses
    · rw [act_eq, act_eq, hd'.refuses action hfiles, hrefuses]
      exact ⟨rfl, hd'.workDirectory, hd'.refuses, hlike _ hd'.tree⟩
  · refine congr _ (fun d' hd' ↦ ?_) (answer (.error kind))
    rw [act_eq, hd'.refuses action hfiles, hrefuses]

/-! ### Making directories -/

/-- Making a directory keeps to any locations, as directories do not count. -/
theorem makeDirectory (path : String) (d : Disk) : KeepsTo within (Disk.makeDirectory path) d := by
  rcases hlocate : d.locateSelf path with kind | place
  · refine congr _ (fun d' hd' ↦ ?_) (answer (.error kind))
    rw [makeDirectory_eq, hd'.locateSelf_eq, hlocate]
  · by_cases hnone : d.tree.get? place = none
    · refine congr (Disk.act (.makeDirectory place) (·.put place .directory))
        (fun d' hd' ↦ ?_) (act nofun (fun _ l _ ↦ ?_) fun t' ht' ↦ ht'.put place .directory)
      · rw [makeDirectory_eq, hd'.locateSelf_eq, hlocate, act_eq]
        dsimp only
        rw [(hd'.tree.shape place).eq_none_iff.2 hnone]
        rfl
      · dsimp only
        rw [FileTree.get?_put]
        split
        · next hl => exact .inr ⟨hl.1 ▸ hnone, rfl⟩
        · exact .inl rfl
    · refine congr _ (fun d' hd' ↦ ?_) (answer (.error .alreadyExists))
      have hsome : (d'.tree.get? place).isSome = true := by
        rw [Option.isSome_iff_ne_none, Ne, (hd'.tree.shape place).eq_none_iff]
        exact hnone
      rw [makeDirectory_eq, hd'.locateSelf_eq, hlocate]
      exact if_pos hsome

/-- A choice by whether a path leads to a directory. -/
theorem ifDirectory {yes no : ExceptT ε (StateM Disk) α} (hyes : KeepsTo within yes d)
    (hno : KeepsTo within no d) :
    KeepsTo within (do if (← get).isDirectory path then yes else no : ExceptT ε (StateM Disk) α)
      d := by
  rcases hdir : d.isDirectory path with - | -
  · refine congr _ (fun d' hd' ↦ ?_) hno
    show (if d'.isDirectory path = true then yes else no) d' = _
    rw [hd'.isDirectory_eq, hdir, if_neg Bool.false_ne_true]
  · refine congr _ (fun d' hd' ↦ ?_) hyes
    show (if d'.isDirectory path = true then yes else no) d' = _
    rw [hd'.isDirectory_eq, hdir, if_pos rfl]

/-- So does making sure of one directory. -/
theorem ensureOneDirectory (path : String) (d : Disk) :
    KeepsTo within (Disk.ensureOneDirectory path) d :=
  (makeDirectory path d).tryCatch fun _ _ _ ↦ ifDirectory (answer _) (answer _)

/-- So does making sure of a directory and of those above it. -/
theorem ensureUpwards (paths : List String) (d : Disk) :
    KeepsTo within (Disk.ensureUpwards paths) d := by
  induction paths generalizing d with
  | nil => exact answer _
  | cons path above ih =>
    rw [Disk.ensureUpwards]
    refine bind (tryCatch (bind (makeDirectory path d) fun _ _ _ ↦ answer _) fun kind d₁ _ ↦ ?_)
      fun made d₂ _ ↦ ?_
    · split
      · exact answer _
      · exact ifDirectory (answer _) (answer _)
    · split
      · exact answer _
      · exact bind (ih d₂) fun _ d₃ _ ↦ ensureOneDirectory path d₃

/-- Making directories keeps to any locations: it touches no file. -/
theorem ensureDirectory (path : String) (d : Disk) :
    KeepsTo within (Disk.ensureDirectory path) d := by
  rw [Disk.ensureDirectory]
  split
  · exact answer _
  · exact ensureUpwards _ d

/-! ### Files -/

/-- A change of what is at one location, as an action on its file. -/
theorem put {action : FileAction} (hfiles : action.files = [place]) (hplace : within place)
    (entry : Entry) : KeepsTo within (Disk.act action (·.put place entry)) d := by
  refine act (by rwa [hfiles, List.forall_mem_singleton]) (fun _ l hl ↦ .inl ?_)
    fun t' ht' ↦ ht'.put place entry
  refine FileTree.get?_put_of_ne _ ?_ entry
  rintro rfl
  exact hl hplace

/-- Creating a file keeps to the location that its path leads to. -/
theorem create (hslash : Path.endsWithSlash path = false)
    (hplace : ∀ place, d.locate path = .ok place → within place) :
    KeepsTo within (Disk.create path) d := by
  rcases hlocate : d.locate path with kind | place
  · refine congr _ (fun d' hd' ↦ ?_) (answer (Except.error kind))
    rw [create_eq hslash, hd'.locate_eq, hlocate]
  · rcases hdir : d.tree.isDirectory place with - | -
    · have hput : KeepsTo within (Disk.act (.create place) (·.put place (.file []))) d :=
        put rfl (hplace place hlocate) (.file [])
      refine congr _ (fun d' hd' ↦ ?_) (bind hput fun _ _ _ ↦ answer (Except.ok place))
      rw [create_eq hslash, hd'.locate_eq, hlocate, StateExcept.bind_eq, act_eq]
      dsimp only
      rw [(hd'.tree.shape place).isDirectory_eq, hdir, if_neg Bool.false_ne_true]
      rcases d'.refuses (.create place) with - | kind <;> rfl
    · refine congr _ (fun d' hd' ↦ ?_) (answer (Except.error .isADirectory))
      rw [create_eq hslash, hd'.locate_eq, hlocate]
      dsimp only
      rw [(hd'.tree.shape place).isDirectory_eq, hdir, if_pos rfl]

/-- Writing a file keeps to the location that its path leads to. -/
theorem write (hslash : Path.endsWithSlash path = false)
    (hplace : ∀ place, d.locate path = .ok place → within place) :
    KeepsTo within (Disk.write path content) d := by
  refine bind (create hslash hplace) fun place d₁ hcreate ↦ ?_
  have hwithin := hplace place (locate_of_create hslash hcreate)
  refine bind (put rfl hwithin (.file content)) fun _ d₂ _ ↦ ?_
  exact act (List.forall_mem_singleton.2 hwithin) (fun _ ↦ .refl within d₂) fun t' ht' ↦ ht'

/-- Removing a file keeps to the location of its name. A link that is removed is not followed. -/
theorem remove (hplace : ∀ place, d.locateSelf path = .ok place → within place) :
    KeepsTo within (Disk.remove path) d := by
  rcases hlocate : d.locateSelf path with kind | place
  · refine congr _ (fun d' hd' ↦ ?_) (answer (Except.error kind))
    rw [remove_eq, hd'.locateSelf_eq, hlocate]
  · have hwithin := hplace place hlocate
    rcases hentry : d.tree.get? place with - | entry
    · refine congr _ (fun d' hd' ↦ ?_) (answer (Except.error .notFound))
      rw [remove_eq, hd'.locateSelf_eq, hlocate]
      dsimp only
      rw [hd'.tree.content place hwithin, hentry]
    · by_cases hfile : entry = .directory
      · refine congr _ (fun d' hd' ↦ ?_) (answer (Except.error .isADirectory))
        rw [remove_eq, hd'.locateSelf_eq, hlocate]
        dsimp only
        rw [hd'.tree.content place hwithin, hentry, hfile]
      · refine congr _ (fun d' hd' ↦ remove_of_some (hd'.locateSelf_eq.trans hlocate)
          ((hd'.tree.content place hwithin).trans hentry) hfile) ?_
        split
        · exact answer _
        · refine act (List.forall_mem_singleton.2 hwithin) (fun _ l hl ↦ .inl ?_)
            fun t' ht' ↦ ht'.erase place
          refine FileTree.get?_erase_of_ne _ ?_
          rintro rfl
          exact hl hwithin

/-- Renaming a file keeps to the locations of its two names. -/
theorem rename {source target : String}
    (hsource : ∀ place, d.locateSelf source = .ok place → within place)
    (htarget : ∀ goal, d.locateSelf target = .ok goal → within goal) :
    KeepsTo within (Disk.rename source target) d := by
  -- The cases are the answers that renaming looks at, each of which is the same on a disk that
  -- looks alike. Only the last one but one changes the tree.
  rcases hlocate : d.locateSelf source with kind | place
  · refine congr _ (fun d' hd' ↦ ?_) (answer (Except.error kind))
    rw [rename_eq, hd'.locateSelf_eq, hlocate]
  · have hwithin := hsource place hlocate
    rcases hentry : d.tree.get? place with - | entry
    · refine congr _ (fun d' hd' ↦ ?_) (answer (Except.error .notFound))
      rw [rename_eq, hd'.locateSelf_eq, hlocate]
      dsimp only
      rw [hd'.tree.content place hwithin, hentry]
    · by_cases hfile : entry = .directory
      · refine congr _ (fun d' hd' ↦ ?_) (answer (Except.error .isADirectory))
        rw [rename_eq, hd'.locateSelf_eq, hlocate]
        dsimp only
        rw [hd'.tree.content place hwithin, hentry, hfile]
      · rcases hgoal : d.locateSelf target with kind | goal
        · refine congr _ (fun d' hd' ↦ ?_) (answer (Except.error kind))
          rw [rename_eq, hd'.locateSelf_eq, hd'.locateSelf_eq, hlocate, hgoal]
          dsimp only
          rw [hd'.tree.content place hwithin, hentry]
          cases entry with
          | directory => exact absurd rfl hfile
          | _ => rfl
        · have hwithin' := htarget goal hgoal
          have hrename {d' : Disk} (hd' : d.LooksLike within d') :=
            rename_of_some (hd'.locateSelf_eq.trans hlocate)
              ((hd'.tree.content place hwithin).trans hentry) hfile
              (hd'.locateSelf_eq.trans hgoal)
          by_cases hsame : goal = place
          · exact congr _ (fun d' hd' ↦ (hrename hd').trans (if_pos hsame)) (answer (Except.ok ()))
          · rcases hdir : d.tree.isDirectory goal with - | -
            · refine congr (Disk.act (.rename place goal) fun t ↦ (t.erase place).put goal entry)
                (fun d' hd' ↦ ?_)
                (act (List.forall_mem_cons.2 ⟨hwithin, List.forall_mem_singleton.2 hwithin'⟩)
                  (fun _ l hl ↦ .inl ?_) fun t' ht' ↦ (ht'.erase place).put goal entry)
              · rw [hrename hd', if_neg hsame, (hd'.tree.shape goal).isDirectory_eq, hdir,
                  if_neg Bool.false_ne_true]
              · dsimp only
                rw [FileTree.get?_put_of_ne, FileTree.get?_erase_of_ne]
                · rintro rfl
                  exact hl hwithin
                · rintro rfl
                  exact hl hwithin'
            · refine congr _ (fun d' hd' ↦ ?_) (answer (Except.error .isADirectory))
              rw [hrename hd', if_neg hsame, (hd'.tree.shape goal).isDirectory_eq, hdir,
                if_pos rfl]

end KeepsTo

end Disk

end ServerSetup
