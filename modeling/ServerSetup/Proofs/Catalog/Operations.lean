import ServerSetup.Proofs.Catalog

/-!
# Runs of operations on a catalog

Every operation on the catalog is done as a whole, so what several threads do to it is one sequence
of operations. Whatever the sequence, no key and no name stands twice, an installation keeps its
place and its home, and the first selection stands (`after_sound`). Uniqueness is what makes the
answer of an insertion the place of the one entry with the key, and the validity of the selection is
what makes a second selection fail.

Installations are known by the key of their home and services by their name, but both are inserted
by one function. `Inserts` says what it does for any key, and the facts about the two kinds of
entries are instances of it.

A catalog is `Sound` if no key and no name stands twice and the selection is a place in the list;
one catalog `Keeps` another if its homes come first in it, and its selection, if it has one, is the
same. The two are shown of every single operation (`Sound.perform`, `Sound.keeps`), and of runs by
induction. Notes about servers change an entry but not its home, so that they have to be compared by
homes and not by entries.
-/

namespace ServerSetup

/-- An operation that may change a catalog. -/
inductive CatalogOperation
  | addInstallation (i : Installation)
  | ensureInstallation (home : HomePath)
  | makeCurrent (i : Installation)
  | noteServers (home : HomePath) (servers : List String)
  | addService (s : ServiceProfile)
  | forgetServices
  | setServices (ss : List ServiceProfile)

/-- The catalog after an operation. A selection that fails leaves it as it was. -/
def CatalogOperation.perform : CatalogOperation → Catalog → Catalog
  | addInstallation i, c => (c.addInstallation i).2
  | ensureInstallation home, c => (c.ensureInstallation home).2
  | makeCurrent i, c =>
    match c.makeCurrent i with
    | .ok (_, c) => c
    | .error _ => c
  | noteServers home servers, c => (c.noteServers home servers).2
  | addService s, c => (c.addService s).2
  | forgetServices, c => c.forgetServices
  | setServices ss, c => c.setServices ss

namespace Catalog

variable {c c' : Catalog} {i : Installation} {s : ServiceProfile} {ss : List ServiceProfile}

/-- The catalog after some operations, of which there is nothing before the first. -/
def after (ops : List CatalogOperation) : Catalog := ops.foldl (fun c o ↦ o.perform c) empty

/-- The homes of the installations, in the order in which these were found. -/
def homes (c : Catalog) : List HomePath := c.installations.map (·.home)

/-- The names of the services, in the order in which these were found. -/
def names (c : Catalog) : List String := c.services.map (·.name)

/-- No installation and no service stands twice, and the selection is a place in the list. -/
structure Sound (c : Catalog) : Prop where
  keys : c.keys.Nodup
  names : c.names.Nodup
  current : ∀ n, c.current = some n → n < c.installations.length

/-- Installations are only added behind those that are there, and a selection stays. -/
structure Keeps (c c' : Catalog) : Prop where
  homes : c.homes <+: c'.homes
  current : ∀ n, c.current = some n → c'.current = some n

/-! ### Insertions -/

section Inserts

variable {α : Type} {key : α → String} {xs : List α} {x : α} {result : Insertion × List α}

/-- What an insertion comes to. An element with a new key goes to the end, and is reported as new
there; for another one the place of the element with its key is reported, and the list stays. -/
def Inserts (key : α → String) (xs : List α) (x : α) (result : Insertion × List α) : Prop :=
  key x ∉ xs.map key ∧ result = (.new xs.length, xs ++ [x]) ∨
    ∃ n stored, xs[n]? = some stored ∧ key stored = key x ∧ result = (.existing n, xs)

/-- What an insertion by a key does, for any kind of entry: the same list if the key is there, and
one entry more at the end if it is not. -/
theorem inserts_insertInto (key : α → String) (xs : List α) (x : α) :
    Inserts key xs x (insertInto (fun a b ↦ key a == key b) xs x) := by
  rw [insertInto]
  rcases hfind : xs.findIdx? (key · == key x) with - | n
  · refine .inl ⟨fun hmem ↦ ?_, rfl⟩
    obtain ⟨y, hy, hkey⟩ := List.mem_map.1 hmem
    exact beq_eq_false_iff_ne.1 (List.findIdx?_eq_none_iff.1 hfind y hy) hkey
  · obtain ⟨hn, hkey, -⟩ := List.findIdx?_eq_some_iff_getElem.1 hfind
    exact .inr ⟨n, xs[n], List.getElem?_eq_getElem hn, beq_iff_eq.1 hkey, rfl⟩

/-- An insertion by a key keeps the keys different. -/
theorem Inserts.nodup (h : Inserts key xs x result) (hnodup : (xs.map key).Nodup) :
    (result.2.map key).Nodup := by
  obtain ⟨hmem, rfl⟩ | ⟨n, stored, -, -, rfl⟩ := h
  · rw [List.map_append, List.map_singleton, ← List.concat_eq_append]
    exact hnodup.concat hmem
  · exact hnodup

/-- Which of the two an insertion comes to is a matter of whether the key is there. -/
theorem Inserts.eq_of_not_mem (h : Inserts key xs x result) (hmem : key x ∉ xs.map key) :
    result.2 = xs ++ [x] := by
  obtain ⟨-, rfl⟩ | ⟨n, stored, hstored, hkey, -⟩ := h
  · rfl
  · exact absurd (List.mem_map.2 ⟨stored, List.mem_of_getElem? hstored, hkey⟩) hmem

theorem Inserts.eq_of_mem (h : Inserts key xs x result) (hmem : key x ∈ xs.map key) :
    result.2 = xs := by
  obtain ⟨hnot, -⟩ | ⟨n, stored, -, -, rfl⟩ := h
  · exact absurd hmem hnot
  · rfl

end Inserts

/-- Installations are inserted by the keys of their homes. -/
theorem inserts_addInstallation (c : Catalog) (i : Installation) :
    Inserts (·.home.key) c.installations i
      ((c.addInstallation i).1, (c.addInstallation i).2.installations) :=
  inserts_insertInto (fun i : Installation ↦ i.home.key) c.installations i

theorem inserts_addService (c : Catalog) (s : ServiceProfile) :
    Inserts (·.name) c.services s ((c.addService s).1, (c.addService s).2.services) :=
  inserts_insertInto ServiceProfile.name c.services s

/-! ### Replacing the services -/

theorem addService_of_mem (h : s.name ∈ c.names) : (c.addService s).2 = c := by
  have hservices : (c.addService s).2.services = c.services := (inserts_addService c s).eq_of_mem h
  show { c with services := (c.addService s).2.services } = c
  rw [hservices]

/-- A service whose name is not known is added at the end. -/
theorem addService_of_not_mem (h : s.name ∉ c.names) :
    (c.addService s).2 = { c with services := c.services ++ [s] } := by
  have hservices : (c.addService s).2.services = c.services ++ [s] :=
    (inserts_addService c s).eq_of_not_mem h
  rw [← hservices]
  rfl

/-- Adding services one by one adds the first of each name that is not there yet. -/
theorem foldl_addService (c : Catalog) (ss : List ServiceProfile) :
    ss.foldl (fun c s ↦ (c.addService s).2) c = { c with
      services := c.services ++
        (ss.filter (·.name ∉ c.names)).eraseDupsBy fun s s' ↦ s.name == s'.name } := by
  induction ss generalizing c with
  | nil => exact congrArg (Catalog.mk c.installations · c.current) (List.append_nil _).symm
  | cons s ss ih =>
    rw [List.foldl_cons, ih]
    -- The later services are held against what is known by then, which a new name adds to.
    by_cases hmem : s.name ∈ c.names
    · rw [addService_of_mem hmem, List.filter_cons_of_neg (by simpa using hmem)]
    · have hnames (s' : ServiceProfile) : decide (s'.name ∉ (c.services ++ [s]).map (·.name)) =
          (decide ((s'.name == s.name) = false) && decide (s'.name ∉ c.names)) := by
        rw [List.map_append, List.map_singleton, ← names]
        simp [and_comm]
      rw [addService_of_not_mem hmem, names, List.filter_cons_of_pos (by simpa using hmem),
        List.eraseDupsBy_cons, List.filter_filter, List.append_assoc, List.singleton_append]
      simp only [hnames]

/-- **Of several services with one name the first is known afterwards,** whatever was there. -/
theorem setServices_eq (c : Catalog) (ss : List ServiceProfile) :
    c.setServices ss =
      { c with services := ss.eraseDupsBy fun s s' ↦ s.name == s'.name } := by
  have hnone : ss.filter (·.name ∉ c.forgetServices.names) = ss :=
    List.filter_eq_self.2 fun s _ ↦ by simp [names, forgetServices]
  rw [setServices, foldl_addService, hnone]
  rfl

/-! ### What one operation keeps -/

theorem nodup_names_addService (h : c.names.Nodup) : (c.addService s).2.names.Nodup :=
  (inserts_addService c s).nodup h

/-- After the services were replaced no name stands twice, whatever was there before. -/
theorem nodup_names_setServices (c : Catalog) (ss : List ServiceProfile) :
    (c.setServices ss).names.Nodup := by
  have hfold (c : Catalog) (h : c.names.Nodup) :
      (ss.foldl (fun c s ↦ (c.addService s).2) c).names.Nodup := by
    induction ss generalizing c with
    | nil => exact h
    | cons s ss ih => exact ih _ (nodup_names_addService h)
  exact hfold c.forgetServices List.nodup_nil

/-- Noting servers leaves the homes alone. -/
theorem homes_noteServers (c : Catalog) (home : HomePath) (servers : List String) :
    (c.noteServers home servers).2.homes = c.homes := by
  have hmodify (known : Installation → Bool) (is : List Installation) :
      (modifyFirst known (fun i ↦ { i with servers := servers }) is).map (·.home) =
        is.map (·.home) := by
    induction is with
    | nil => rfl
    | cons i is ih =>
      rw [modifyFirst]
      split
      · rfl
      · rw [List.map_cons, List.map_cons, ih]
  exact hmodify _ c.installations

theorem length_homes (c : Catalog) : c.homes.length = c.installations.length := List.length_map _

/-- The keys are those of the homes. -/
theorem map_key_homes (c : Catalog) : c.homes.map (·.key) = c.keys := List.map_map

/-- What is selected is there. -/
theorem Sound.exists_current (h : c.Sound) {n : Nat} (hn : c.current = some n) :
    ∃ i, c.installations[n]? = some i ∧ c.current? = some i := by
  have hlt := h.current n hn
  refine ⟨c.installations[n], List.getElem?_eq_getElem hlt, ?_⟩
  rw [current?, hn]
  exact List.getElem?_eq_getElem hlt

/-- A second selection fails, and its message names both homes. -/
theorem makeCurrent_of_current? {current : Installation} (h : c.current? = some current)
    (i : Installation) :
    c.makeCurrent i = .error (.alreadySelected current.home.shown i.home.shown) := by
  rw [makeCurrent, h]

/-- A first selection adds the installation if need be, and selects the entry with its key. -/
theorem exists_makeCurrent_of_none (h : c.current = none) (i : Installation) :
    ∃ stored, (c.addInstallation i).2.installations[(c.addInstallation i).1.index]? = some stored ∧
      stored.home.key = i.home.key ∧ c.makeCurrent i = .ok (stored,
        { (c.addInstallation i).2 with current := some (c.addInstallation i).1.index }) := by
  obtain ⟨stored, hstored, hkey⟩ := exists_getElem?_addInstallation c i
  have hmake : c.makeCurrent i = .ok
      (((c.addInstallation i).2.installations[(c.addInstallation i).1.index]?).getD i,
        { (c.addInstallation i).2 with current := some (c.addInstallation i).1.index }) := by
    rw [makeCurrent, current?_of_current h]
  exact ⟨stored, hstored, hkey, by rw [hmake, hstored, Option.getD_some]⟩

/-- Looking for a home adds it if need be, and answers with the entry that has its key. -/
theorem exists_ensureInstallation (c : Catalog) (home : HomePath) :
    ∃ stored, c.ensureInstallation home = (stored, (c.addInstallation ⟨home, []⟩).2) ∧
      stored ∈ (c.addInstallation ⟨home, []⟩).2.installations ∧ stored.home.key = home.key := by
  obtain ⟨stored, hstored, hkey⟩ := exists_getElem?_addInstallation c ⟨home, []⟩
  have hensure : c.ensureInstallation home =
      (((c.addInstallation ⟨home, []⟩).2.installations[
        (c.addInstallation ⟨home, []⟩).1.index]?).getD ⟨home, []⟩,
        (c.addInstallation ⟨home, []⟩).2) := rfl
  exact ⟨stored, by rw [hensure, hstored, Option.getD_some], List.mem_of_getElem? hstored, hkey⟩

theorem perform_makeCurrent_of_current? {current : Installation} (h : c.current? = some current)
    (i : Installation) : (CatalogOperation.makeCurrent i).perform c = c := by
  rw [CatalogOperation.perform, makeCurrent_of_current? h]

theorem perform_makeCurrent_of_none (h : c.current = none) (i : Installation) :
    (CatalogOperation.makeCurrent i).perform c =
      { (c.addInstallation i).2 with current := some (c.addInstallation i).1.index } := by
  obtain ⟨stored, -, -, hmake⟩ := exists_makeCurrent_of_none h i
  rw [CatalogOperation.perform, hmake]

theorem prefix_homes_addInstallation (c : Catalog) (i : Installation) :
    c.homes <+: (c.addInstallation i).2.homes := (prefix_addInstallation c i).map _

namespace Keeps

theorem refl (c : Catalog) : c.Keeps c := ⟨List.prefix_refl _, fun _ h ↦ h⟩

theorem trans {c'' : Catalog} (h : c.Keeps c') (h' : c'.Keeps c'') : c.Keeps c'' where
  homes := h.homes.trans h'.homes
  current n hn := h'.current n (h.current n hn)

end Keeps

/-- One operation on a sound catalog keeps each home in its place and the selection. -/
theorem Sound.keeps (h : c.Sound) (o : CatalogOperation) : c.Keeps (o.perform c) := by
  cases o with
  | addInstallation i => exact ⟨prefix_homes_addInstallation c i, fun _ hn ↦ hn⟩
  | ensureInstallation home => exact ⟨prefix_homes_addInstallation c _, fun _ hn ↦ hn⟩
  | makeCurrent i =>
    rcases hcurrent : c.current with - | n
    · rw [perform_makeCurrent_of_none hcurrent]
      exact ⟨prefix_homes_addInstallation c i, fun n hn ↦ by rw [hcurrent] at hn; cases hn⟩
    · obtain ⟨current, -, hcurrent⟩ := h.exists_current hcurrent
      rw [perform_makeCurrent_of_current? hcurrent]
      exact .refl c
  | noteServers home servers =>
    exact ⟨(homes_noteServers c home servers).symm ▸ List.prefix_refl _, fun _ hn ↦ hn⟩
  | addService s => exact ⟨List.prefix_refl _, fun _ hn ↦ hn⟩
  | forgetServices => exact ⟨List.prefix_refl _, fun _ hn ↦ hn⟩
  | setServices ss =>
    show c.Keeps (c.setServices ss)
    rw [setServices_eq]
    exact ⟨List.prefix_refl _, fun _ hn ↦ hn⟩

/-- A place stays one when installations are added behind it. -/
theorem lt_length_of_keeps (h : c.homes <+: c'.homes) {n : Nat} (hn : n < c.installations.length) :
    n < c'.installations.length := by
  rw [← length_homes] at hn ⊢
  exact Nat.lt_of_lt_of_le hn h.length_le

/-- A sound catalog stays sound when an installation is added. -/
theorem Sound.addInstallation (h : c.Sound) (i : Installation) : (c.addInstallation i).2.Sound where
  keys := nodup_keys_addInstallation h.keys
  names := h.names
  current n hn := lt_length_of_keeps (prefix_homes_addInstallation c i) (h.current n hn)

/-- **An operation keeps a catalog sound.** -/
theorem Sound.perform (h : c.Sound) (o : CatalogOperation) : (o.perform c).Sound := by
  cases o with
  | addInstallation i => exact h.addInstallation i
  | ensureInstallation home => exact h.addInstallation ⟨home, []⟩
  | makeCurrent i =>
    rcases hcurrent : c.current with - | n
    · obtain ⟨stored, hstored, -⟩ := exists_getElem?_addInstallation c i
      rw [perform_makeCurrent_of_none hcurrent]
      refine ⟨(h.addInstallation i).keys, h.names, fun n hn ↦ ?_⟩
      rw [← Option.some.inj hn]
      exact (List.getElem?_eq_some_iff.1 hstored).1
    · obtain ⟨current, -, hcurrent⟩ := h.exists_current hcurrent
      rwa [perform_makeCurrent_of_current? hcurrent]
  | noteServers home servers =>
    have hhomes := homes_noteServers c home servers
    refine ⟨?_, h.names, fun n hn ↦ ?_⟩
    · show (c.noteServers home servers).2.keys.Nodup
      rw [← map_key_homes, hhomes, map_key_homes]
      exact h.keys
    · exact lt_length_of_keeps (hhomes.symm ▸ List.prefix_refl _) (h.current n hn)
  | addService s => exact ⟨h.keys, nodup_names_addService h.names, h.current⟩
  | forgetServices => exact ⟨h.keys, List.nodup_nil, h.current⟩
  | setServices ss =>
    have hnames := nodup_names_setServices c ss
    show (c.setServices ss).Sound
    rw [setServices_eq] at hnames ⊢
    exact ⟨h.keys, hnames, h.current⟩

/-! ### Runs -/

theorem sound_empty : empty.Sound := ⟨List.nodup_nil, List.nodup_nil, fun _ h ↦ nomatch h⟩

theorem after_append (ops more : List CatalogOperation) :
    after (ops ++ more) = more.foldl (fun c o ↦ o.perform c) (after ops) := List.foldl_append

/-- A run keeps a sound catalog sound and what is in it. -/
theorem Sound.run (h : c.Sound) (ops : List CatalogOperation) :
    (ops.foldl (fun c o ↦ o.perform c) c).Sound ∧
      c.Keeps (ops.foldl (fun c o ↦ o.perform c) c) := by
  induction ops generalizing c with
  | nil => exact ⟨h, .refl c⟩
  | cons o ops ih =>
    obtain ⟨hsound, hkeeps⟩ := ih (h.perform o)
    exact ⟨hsound, (h.keeps o).trans hkeeps⟩

/-- **The catalog of a run.** After any sequence of operations, each done as a whole, no key and no
name stands twice, and what is done later keeps each home in its place and the selection. In such a
catalog an insertion answers as it should and changes nothing else; a selection fails and changes
nothing if there is one already, and otherwise selects the entry with the key; looking for a home
leaves the selection alone; and setting the services leaves the first of each name. -/
theorem after_sound (ops more : List CatalogOperation) :
    let c := after ops
    c.Sound ∧ c.Keeps (after (ops ++ more)) ∧
    (∀ i, ∃ place is, c.addInstallation i = (place, { c with installations := is }) ∧
      Inserts (·.home.key) c.installations i (place, is)) ∧
    (∀ s, ∃ place ss, c.addService s = (place, { c with services := ss }) ∧
      Inserts (·.name) c.services s (place, ss)) ∧
    (∀ home, ∃ stored, c.ensureInstallation home = (stored, (c.addInstallation ⟨home, []⟩).2) ∧
      stored ∈ (c.addInstallation ⟨home, []⟩).2.installations ∧ stored.home.key = home.key ∧
      (c.ensureInstallation home).2.current = c.current) ∧
    (∀ i n, c.current = some n → (CatalogOperation.makeCurrent i).perform c = c ∧
      ∃ current, c.installations[n]? = some current ∧
        c.makeCurrent i = .error (.alreadySelected current.home.shown i.home.shown)) ∧
    (∀ i, c.current = none → ∃ stored n, stored.home.key = i.home.key ∧
      (c.addInstallation i).2.installations[n]? = some stored ∧
      c.makeCurrent i = .ok (stored, { (c.addInstallation i).2 with current := some n })) ∧
    ∀ ss, c.setServices ss =
      { c with services := ss.eraseDupsBy fun s s' ↦ s.name == s'.name } := by
  have hsound : (after ops).Sound := (sound_empty.run ops).1
  refine ⟨hsound, ?_, fun i ↦ ?_, fun s ↦ ?_, fun home ↦ ?_, fun i n hn ↦ ?_, fun i hnone ↦ ?_,
    setServices_eq _⟩
  · rw [after_append]
    exact (hsound.run more).2
  · exact ⟨_, _, rfl, inserts_addInstallation _ i⟩
  · exact ⟨_, _, rfl, inserts_addService _ s⟩
  · obtain ⟨stored, hensure, hstored, hkey⟩ := exists_ensureInstallation (after ops) home
    exact ⟨stored, hensure, hstored, hkey, rfl⟩
  · obtain ⟨current, hcurrent, hcurrent?⟩ := hsound.exists_current hn
    exact ⟨perform_makeCurrent_of_current? hcurrent? i, current, hcurrent,
      makeCurrent_of_current? hcurrent? i⟩
  · obtain ⟨stored, hstored, hkey, hmake⟩ := exists_makeCurrent_of_none hnone i
    exact ⟨stored, _, hkey, hstored, hmake⟩

end Catalog

end ServerSetup
