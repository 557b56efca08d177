import Mathlib.Data.List.Nodup
import ServerSetup.Catalog

/-!
# The keys of a catalog

A catalog is a set of installations by their keys: an insertion adds the key of what is inserted and
no other, keeps the entries that were there in their places, and never makes a key stand twice. The
selection of the current installation survives every insertion.

The facts are stated first for one insertion (`mem_keys_addInstallation`, `prefix_addInstallation`),
then for a list of homes that are inserted one after the other (`addHomes`), for the choice of a
current home (`selecting`), and for all that one search does to the catalog (`gather`). A search is
stated in terms of the homes it finds, in the order in which they reach the catalog: those on the
volumes, the recorded one, those of the services, and the one above the tool itself. What the search
operations do is proved equal to this elsewhere, so everything about the keys and the selection can
be said without any host.

That the earlier list is a prefix of the later one says more than that its entries are still there:
places are numbers, and the selection is a place.
-/

namespace ServerSetup.Catalog

variable {c : Catalog} {home : HomePath} {homes : List HomePath} {i : Installation} {key : String}

/-- The keys of the installations, in the order in which these were found. -/
def keys (c : Catalog) : List String := c.installations.map (·.home.key)

/-- The catalog after homes were added, in order. -/
def addHomes (c : Catalog) (homes : List HomePath) : Catalog :=
  homes.foldl (fun c home ↦ (c.addInstallation ⟨home, []⟩).2) c

/-- The catalog after a home was selected, unless there is a selection already. -/
def selecting (c : Catalog) (home : HomePath) : Catalog :=
  match c.makeCurrent ⟨home, []⟩ with
  | .ok (_, c) => c
  | .error _ => c

/-! ### Adding installations -/

/-- An installation whose key is not there goes to the end. -/
theorem addInstallation_of_not_mem (h : i.home.key ∉ c.keys) :
    c.addInstallation i =
      (.new c.installations.length, { c with installations := c.installations ++ [i] }) := by
  have hfind : c.installations.findIdx? (·.home.same i.home) = none := by
    refine List.findIdx?_eq_none_iff.2 fun j hj ↦ beq_eq_false_iff_ne.2 fun hkey ↦ h ?_
    exact List.mem_map.2 ⟨j, hj, hkey⟩
  rw [addInstallation, insertInto, hfind]

/-- An installation whose key is there changes nothing. -/
theorem exists_addInstallation_of_mem (h : i.home.key ∈ c.keys) :
    ∃ n stored, c.addInstallation i = (.existing n, c) ∧ c.installations[n]? = some stored ∧
      stored.home.key = i.home.key := by
  rcases hfind : c.installations.findIdx? (·.home.same i.home) with - | n
  · obtain ⟨j, hj, hkey⟩ := List.mem_map.1 h
    have hsame : (j.home.key == i.home.key) = false := List.findIdx?_eq_none_iff.1 hfind j hj
    exact absurd hkey (beq_eq_false_iff_ne.1 hsame)
  · obtain ⟨hn, hsame, -⟩ := List.findIdx?_eq_some_iff_getElem.1 hfind
    refine ⟨n, c.installations[n], ?_, List.getElem?_eq_getElem hn, beq_iff_eq.1 hsame⟩
    rw [addInstallation, insertInto, hfind]

@[simp] theorem current_addInstallation : (c.addInstallation i).2.current = c.current := rfl

/-- An insertion leaves what was there at the front of the list. -/
theorem prefix_addInstallation (c : Catalog) (i : Installation) :
    c.installations <+: (c.addInstallation i).2.installations := by
  by_cases h : i.home.key ∈ c.keys
  · obtain ⟨n, stored, hadd, -⟩ := exists_addInstallation_of_mem h
    exact hadd ▸ List.prefix_refl c.installations
  · rw [addInstallation_of_not_mem h]
    exact List.prefix_append _ _

/-- The installation at the place that an insertion reports has the inserted key. -/
theorem exists_getElem?_addInstallation (c : Catalog) (i : Installation) :
    ∃ stored, (c.addInstallation i).2.installations[(c.addInstallation i).1.index]? = some stored ∧
      stored.home.key = i.home.key := by
  by_cases h : i.home.key ∈ c.keys
  · obtain ⟨n, stored, hadd, hstored, hkey⟩ := exists_addInstallation_of_mem h
    rw [hadd]
    exact ⟨stored, hstored, hkey⟩
  · rw [addInstallation_of_not_mem h]
    exact ⟨i, List.getElem?_concat_length, rfl⟩

/-- An insertion adds one key and no other. -/
theorem mem_keys_addInstallation :
    key ∈ (c.addInstallation i).2.keys ↔ key ∈ c.keys ∨ i.home.key = key := by
  by_cases h : i.home.key ∈ c.keys
  · obtain ⟨n, stored, hadd, -⟩ := exists_addInstallation_of_mem h
    rw [hadd]
    refine ⟨Or.inl, ?_⟩
    rintro (hkey | rfl)
    · exact hkey
    · exact h
  · rw [addInstallation_of_not_mem h, keys, List.map_append, List.mem_append, ← keys,
      List.map_singleton, List.mem_singleton, eq_comm (a := key)]

/-- No key stands twice after an insertion if none did before. -/
theorem nodup_keys_addInstallation (h : c.keys.Nodup) : (c.addInstallation i).2.keys.Nodup := by
  by_cases hmem : i.home.key ∈ c.keys
  · obtain ⟨n, stored, hadd, -⟩ := exists_addInstallation_of_mem hmem
    rw [hadd]
    exact h
  · rw [addInstallation_of_not_mem hmem, keys, List.map_append, ← keys, List.map_singleton,
      ← List.concat_eq_append]
    exact h.concat hmem

/-- A selection stays when entries are added behind it. -/
theorem current?_of_prefix {c' : Catalog} (hcurrent : c'.current = c.current)
    (hextends : c.installations <+: c'.installations) (h : c.current? = some i) :
    c'.current? = some i := by
  obtain ⟨n, hn, hi⟩ := Option.bind_eq_some_iff.1 h
  obtain ⟨behind, hbehind⟩ := hextends
  have hlt : n < c.installations.length := (List.getElem?_eq_some_iff.1 hi).1
  refine Option.bind_eq_some_iff.2 ⟨n, hcurrent.trans hn, ?_⟩
  rw [← hbehind, List.getElem?_append_left hlt, hi]

theorem current?_of_current (h : c.current = none) : c.current? = none := by
  rw [current?, h, Option.bind_none]

/-! ### Adding homes -/

@[simp] theorem addHomes_nil (c : Catalog) : c.addHomes [] = c := rfl

theorem addHomes_cons (c : Catalog) (home : HomePath) (homes : List HomePath) :
    c.addHomes (home :: homes) = (c.addInstallation ⟨home, []⟩).2.addHomes homes := rfl

theorem addHomes_append (c : Catalog) (homes more : List HomePath) :
    c.addHomes (homes ++ more) = (c.addHomes homes).addHomes more := List.foldl_append

/-- Adding homes adds their keys. -/
theorem mem_keys_addHomes :
    key ∈ (c.addHomes homes).keys ↔ key ∈ c.keys ∨ ∃ home ∈ homes, home.key = key := by
  induction homes generalizing c with
  | nil => simp
  | cons home homes ih =>
    rw [addHomes_cons, ih, mem_keys_addInstallation, or_assoc]
    simp only [List.mem_cons, exists_eq_or_imp]

theorem nodup_keys_addHomes (h : c.keys.Nodup) : (c.addHomes homes).keys.Nodup := by
  induction homes generalizing c with
  | nil => exact h
  | cons home homes ih => exact ih (nodup_keys_addInstallation h)

theorem prefix_addHomes (c : Catalog) (homes : List HomePath) :
    c.installations <+: (c.addHomes homes).installations := by
  induction homes generalizing c with
  | nil => exact List.prefix_refl _
  | cons home homes ih => exact (prefix_addInstallation c _).trans (ih _)

@[simp] theorem current_addHomes : (c.addHomes homes).current = c.current := by
  induction homes generalizing c with
  | nil => rfl
  | cons home homes ih => rw [addHomes_cons, ih, current_addInstallation]

theorem current?_addHomes (homes : List HomePath) (h : c.current? = some i) :
    (c.addHomes homes).current? = some i :=
  current?_of_prefix current_addHomes (prefix_addHomes c homes) h

/-! ### Selecting a home -/

/-- A selection stands. -/
theorem selecting_of_current? (h : c.current? = some i) : c.selecting home = c := by
  rw [selecting, makeCurrent, h]

/-- A first selection adds the home, and selects the entry with its key. -/
theorem selecting_of_none (home : HomePath) (h : c.current? = none) :
    (c.selecting home).installations = (c.addHomes [home]).installations ∧
      (c.selecting home).current?.map (·.home.key) = some home.key := by
  obtain ⟨stored, hstored, hkey⟩ := exists_getElem?_addInstallation c ⟨home, []⟩
  have hselecting : c.selecting home = { (c.addInstallation ⟨home, []⟩).2 with
      current := some (c.addInstallation ⟨home, []⟩).1.index } := by
    rw [selecting, makeCurrent, h]
  rw [hselecting]
  refine ⟨rfl, ?_⟩
  show ((c.addInstallation ⟨home, []⟩).2.installations[_]?).map _ = _
  rw [hstored, Option.map_some, hkey]

theorem keys_selecting_of_none (h : c.current? = none) :
    (c.selecting home).keys = (c.addHomes [home]).keys := by
  rw [keys, (selecting_of_none home h).1, ← keys]

/-- A selection leaves what was there at the front of the list. -/
theorem prefix_selecting (c : Catalog) (home : HomePath) :
    c.installations <+: (c.selecting home).installations := by
  rcases h : c.current? with - | i
  · rw [(selecting_of_none home h).1]
    exact prefix_addHomes c [home]
  · simp only [selecting_of_current? h, List.prefix_refl]

/-- No key stands twice after a selection if none did before. -/
theorem nodup_keys_selecting (hnodup : c.keys.Nodup) : (c.selecting home).keys.Nodup := by
  rcases h : c.current? with - | i
  · rw [keys_selecting_of_none h]
    exact nodup_keys_addHomes hnodup
  · rw [selecting_of_current? h]
    exact hnodup

/-- A home that was just added is there whether or not it gets selected. -/
theorem mem_keys_selecting_addHomes :
    key ∈ ((c.addHomes [home]).selecting home).keys ↔ key ∈ c.keys ∨ home.key = key := by
  rcases h : (c.addHomes [home]).current? with - | i
  · rw [keys_selecting_of_none h, mem_keys_addHomes, mem_keys_addHomes]
    simp
  · rw [selecting_of_current? h, mem_keys_addHomes]
    simp

/-! ### Gathering homes -/

/-- The catalog after homes were added, a recorded home was selected, more homes were added, and the
home above was added and selected. -/
def gather (c : Catalog) (homes : List HomePath) (recorded : Option HomePath) (more : List HomePath)
    (above : Option HomePath) : Catalog :=
  let selected := recorded.elim (c.addHomes homes) (c.addHomes homes).selecting
  above.elim (selected.addHomes more) fun home ↦
    ((selected.addHomes more).addHomes [home]).selecting home

variable {more : List HomePath} {recorded above : Option HomePath}

/-- A whole search leaves what was there at the front of the list. -/
theorem prefix_gather :
    c.installations <+: (c.gather homes recorded more above).installations := by
  have hselected : c.installations <+:
      (recorded.elim (c.addHomes homes) (c.addHomes homes).selecting).installations := by
    rcases recorded with - | home
    · exact prefix_addHomes c homes
    · exact (prefix_addHomes c homes).trans (prefix_selecting _ home)
  rcases above with - | home
  · exact hselected.trans (prefix_addHomes _ more)
  · exact ((hselected.trans (prefix_addHomes _ more)).trans (prefix_addHomes _ [home])).trans
      (prefix_selecting _ home)

/-- No key stands twice after a search if none did before. -/
theorem nodup_keys_gather (h : c.keys.Nodup) : (c.gather homes recorded more above).keys.Nodup := by
  have hselected :
      (recorded.elim (c.addHomes homes) (c.addHomes homes).selecting).keys.Nodup := by
    rcases recorded with - | home
    · exact nodup_keys_addHomes h
    · exact nodup_keys_selecting (nodup_keys_addHomes h)
  rcases above with - | home
  · exact nodup_keys_addHomes hselected
  · exact nodup_keys_selecting (nodup_keys_addHomes (nodup_keys_addHomes hselected))

/-- What is gathered after the selection is there, whether or not there was one before. -/
theorem mem_keys_gather_of_mem (hhome : home ∈ more) :
    home.key ∈ (c.gather homes recorded more above).keys := by
  have hmore : home.key ∈
      ((recorded.elim (c.addHomes homes) (c.addHomes homes).selecting).addHomes more).keys :=
    mem_keys_addHomes.2 (Or.inr ⟨home, hhome, rfl⟩)
  rcases above with - | last
  · exact hmore
  · exact mem_keys_selecting_addHomes.2 (Or.inl hmore)

/-- All homes that are gathered are there. The recorded home is there because nothing was selected
before. -/
theorem mem_keys_gather (hcurrent : c.current = none) :
    key ∈ (c.gather homes recorded more above).keys ↔ key ∈ c.keys ∨
      ∃ home, (home ∈ homes ∨ recorded = some home ∨ home ∈ more ∨ above = some home) ∧
        home.key = key := by
  have hnone : (c.addHomes homes).current? = none :=
    current?_of_current (current_addHomes.trans hcurrent)
  have hselected : key ∈ (recorded.elim (c.addHomes homes) (c.addHomes homes).selecting).keys ↔
      (key ∈ c.keys ∨ ∃ home ∈ homes, home.key = key) ∨ ∃ home, recorded = some home ∧
        home.key = key := by
    rcases recorded with - | home
    · simp [mem_keys_addHomes]
    · rw [Option.elim_some, keys_selecting_of_none hnone, mem_keys_addHomes, mem_keys_addHomes]
      simp
  have habove : key ∈ (c.gather homes recorded more above).keys ↔
      (key ∈ (recorded.elim (c.addHomes homes) (c.addHomes homes).selecting).keys ∨
        ∃ home ∈ more, home.key = key) ∨ ∃ home, above = some home ∧ home.key = key := by
    rcases above with - | home
    · simp [gather, mem_keys_addHomes]
    · rw [gather, Option.elim_some, mem_keys_selecting_addHomes, mem_keys_addHomes]
      simp
  rw [habove, hselected]
  simp only [or_and_right, exists_or, or_assoc]

/-- The recorded home is selected, or else the one above. -/
theorem current?_gather (hcurrent : c.current = none) :
    (c.gather homes recorded more above).current?.map (·.home.key) =
      (recorded.or above).map HomePath.key := by
  rcases recorded with - | recorded
  · have hnone : ((c.addHomes homes).addHomes more).current = none := by
      rw [current_addHomes, current_addHomes, hcurrent]
    rcases above with - | home
    · show ((c.addHomes homes).addHomes more).current?.map _ = none
      rw [current?_of_current hnone, Option.map_none]
    · exact (selecting_of_none home (current?_of_current (current_addHomes.trans hnone))).2
  · have hnone : (c.addHomes homes).current? = none :=
      current?_of_current (current_addHomes.trans hcurrent)
    obtain ⟨i, hi, hkey⟩ := Option.map_eq_some_iff.1 (selecting_of_none recorded hnone).2
    -- the selection stands in what follows
    have hmore := current?_addHomes more hi
    suffices h : (c.gather homes (some recorded) more above).current? = some i by
      rw [h, Option.map_some, hkey, Option.some_or, Option.map_some]
    rcases above with - | home
    · exact hmore
    · have habove := current?_addHomes [home] hmore
      exact (congrArg current? (selecting_of_current? habove)).trans habove

end ServerSetup.Catalog
