import ServerSetup.Proofs.Rehearsal
import ServerSetup.Proofs.Windows.Documented
import ServerSetup.Windows.Machine

/-!
# The machine in memory does as documented

The machine in memory is one of the systems that the results about the adapters speak of
(`Machine.documented`). So these results can be tried out on it, and their assumptions can be met.

Its view is the plain one. Names are compared as they are, and a service shows its run state and
what it was made with. A key is there if the machine has it for itself or for a key below it, and
holds the values that were set. No service is ever seen marked for deletion, since the machine
deletes at once; where it deletes a service that has stopped and that nobody else has open, Windows
does the same.

The machine makes and deletes the record of a service, and the keys above the record come and go
with it. This is why the laws speak of keys that are apart: neither below the record nor above it.
-/

namespace ServerSetup.Windows.Machine

variable {ε α : Type} {m : Machine} {above key other name value : String}

/-- What can be seen of the machine. -/
def view : View system where
  fold := id
  Content := Values
  content := content
  text := fun values name ↦ values.lookup name
  path := fun key ↦ key
  Settings := Option ServiceInfo × Option String
  entry := fun m name ↦ (m.services.lookup name).map fun s ↦
    { settings := (s.info, s.description), state := s.state, deleted := false, held := false }
  serviceName := fun service ↦ service
  info := Prod.fst

/-! ### Names and keys -/

/-- Names are compared as they are. -/
theorem sameName_iff : view.SameName name other ↔ name = other := by
  rw [View.SameName, View.folded, View.folded, show view.fold = id from rfl, List.map_id,
    List.map_id, String.toList_inj]

/-- A key lies below another one as the machine has it. -/
theorem atOrBelow_iff : view.AtOrBelow above key ↔ isAtOrBelow above key = true := by
  rw [View.AtOrBelow, View.folded, View.folded, show view.fold = id from rfl, List.map_id,
    List.map_id, isAtOrBelow, Bool.or_eq_true, beq_iff_eq, List.isPrefixOf_iff_prefix,
    String.toList_append, String.toList_append, show "\\".toList = ['\\'] from rfl,
    List.prefix_concat_iff, List.append_cancel_right_eq, String.toList_inj, eq_comm]

/-- What is seen of a key is what it holds. -/
theorem content_eq : view.content m key = m.content key := rfl

/-- What is seen of a key depends on the registry only. -/
theorem content_congr {m' : Machine} (h : m'.registry = m.registry) :
    view.content m' = view.content m := by
  funext key
  rw [content_eq, content_eq, content, hasKey, valuesOf, h, ← valuesOf, ← hasKey, ← content]

/-- A key is not there exactly if the machine does not have it. -/
theorem content_eq_none_iff : view.content m key = none ↔ m.hasKey key = false := by
  show (if m.hasKey key then some (m.valuesOf key) else none) = none ↔ _
  cases m.hasKey key
  · simp
  · simp

/-- A key is there with every key below it. -/
theorem hasKey_of_atOrBelow (h : view.AtOrBelow above key) (hkey : m.hasKey key = true) :
    m.hasKey above = true := by
  rw [hasKey, List.any_eq_true] at hkey ⊢
  obtain ⟨entry, hmem, hentry⟩ := hkey
  exact ⟨entry, hmem, atOrBelow_iff.1 (h.trans (atOrBelow_iff.2 hentry))⟩

/-- A key with a value is there. -/
theorem textAt_eq : view.textAt m key name = (m.valuesOf key).lookup name := by
  show (if m.hasKey key then some (m.valuesOf key) else none).bind
    (fun values ↦ values.lookup name) = _
  cases hkey : m.hasKey key
  · have hnone : m.registry.lookup key = none := by
      rw [List.lookup_eq_none_iff]
      intro entry hmem
      rw [hasKey, List.any_eq_false] at hkey
      have hbelow := hkey entry hmem
      rw [isAtOrBelow, Bool.or_eq_true, not_or, beq_iff_eq] at hbelow
      simpa using Ne.symm hbelow.1
    rw [valuesOf, hnone]
    rfl
  · rfl

/-! ### Changes of the registry -/

/-- The registry with a value that was set is an assignment of an assignment. -/
theorem registry_withValue : (m.withValue key name value).registry =
    Rehearsal.assign key (Rehearsal.assign name value (m.valuesOf key)) m.registry := rfl

/-- A value that was set is read back. -/
theorem textAt_withValue : view.textAt (m.withValue key name value) key name = some value := by
  rw [textAt_eq, valuesOf, registry_withValue, Rehearsal.lookup_assign_self, Option.getD_some,
    Rehearsal.lookup_assign_self]

/-- A value that is set changes no key that is apart. -/
theorem content_withValue (h : view.Apart key other) :
    view.content (m.withValue key name value) other = view.content m other := by
  have hne : other ≠ key := by
    rintro rfl
    exact h.1 (.refl _)
  have hvalues : (m.withValue key name value).valuesOf other = m.valuesOf other := by
    rw [valuesOf, registry_withValue, Rehearsal.lookup_assign_of_ne hne, valuesOf]
  have hbelow : isAtOrBelow other key = false :=
    Bool.eq_false_iff.2 fun h' ↦ h.2 (atOrBelow_iff.2 h')
  have hkey : (m.withValue key name value).hasKey other = m.hasKey other := by
    rw [hasKey, registry_withValue, Rehearsal.assign, List.any_append, List.any_cons, hbelow,
      List.any_nil, Bool.or_self, Bool.or_false, List.any_filter, hasKey]
    refine congrArg (List.any m.registry) (funext fun entry ↦ ?_)
    by_cases hentry : entry.1 = key
    · rw [hentry, hbelow, Bool.and_false]
    · simp [hentry]
  show (if _ then some _ else none) = if _ then some _ else none
  rw [hkey, hvalues]

/-- A key that was deleted is not there. -/
theorem hasKey_withoutKey_self : (m.withoutKey key).hasKey key = false := by
  rw [hasKey, withoutKey, List.any_filter, List.any_eq_false]
  intro entry _
  cases isAtOrBelow key entry.1
  · simp
  · simp

/-- A key that is deleted changes no key that is apart. -/
theorem content_withoutKey (h : view.Apart key other) :
    view.content (m.withoutKey key) other = view.content m other := by
  have hkept {k : String} (hk : isAtOrBelow other k = true) : isAtOrBelow key k = false := by
    rw [Bool.eq_false_iff]
    intro hbelow
    rcases View.atOrBelow_or_of_both (atOrBelow_iff.2 hk) (atOrBelow_iff.2 hbelow) with h' | h'
    · exact h.1 h'
    · exact h.2 h'
  have hkey : (m.withoutKey key).hasKey other = m.hasKey other := by
    rw [hasKey, withoutKey, List.any_filter, hasKey]
    refine congrArg (List.any m.registry) (funext fun entry ↦ ?_)
    cases hentry : isAtOrBelow other entry.1
    · rw [Bool.and_false]
    · rw [hkept hentry]
      rfl
  have hvalues : (m.withoutKey key).valuesOf other = m.valuesOf other := by
    have hself : isAtOrBelow key other = false :=
      Bool.eq_false_iff.2 fun h' ↦ h.1 (atOrBelow_iff.2 h')
    rw [valuesOf, withoutKey, valuesOf]
    exact congrArg (Option.getD · []) (Rehearsal.lookup_filter_of_pos (p := (! isAtOrBelow key ·))
      (by rw [hself, Bool.not_false]))
  show (if _ then some _ else none) = if _ then some _ else none
  rw [hkey, hvalues]

/-! ### Changes of the services -/

/-- What is registered is what the machine knows. -/
theorem registered_eq : view.registered m name =
    (m.services.lookup name).map fun s ↦ (s.info, s.description) := by
  show ((m.services.lookup name).map _).bind _ = _
  cases m.services.lookup name
  · rfl
  · rfl

/-- A service is not there exactly if the machine does not know it. -/
theorem entry_eq_none_iff : view.entry m name = none ↔ m.services.lookup name = none :=
  Option.map_eq_none_iff

/-- A change of one service is found under its name. -/
theorem lookup_modifyService (f : KnownService → KnownService) :
    (m.modifyService key f).services.lookup name =
      (m.services.lookup name).map fun s ↦ if name = key then f s else s := by
  show (m.services.map _).lookup name = _
  induction m.services with
  | nil => rfl
  | cons entry rest ih =>
    rw [List.map_cons, List.lookup_cons, List.lookup_cons]
    by_cases hentry : name = entry.1
    · rw [← hentry]
      simp
    · have hskip : (name == entry.1) = false := by simpa using hentry
      rw [hskip]
      exact ih

/-- Where a service was not known, one that is made is the one that is found. -/
theorem lookup_withService {info : ServiceInfo} (hnew : m.services.lookup info.name = none) :
    (m.withService info).services.lookup name = if name = info.name then
      some { state := .stopped, info := some info } else m.services.lookup name := by
  show (m.services ++ [(info.name, _)]).lookup name = _
  rw [List.lookup_append, List.lookup_cons]
  by_cases hname : name = info.name
  · rw [hname, hnew, if_pos rfl, beq_self_eq_true, Option.none_or]
  · have hskip : (name == info.name) = false := by simpa using hname
    rw [if_neg hname, hskip, List.lookup_nil, Option.or_none]

/-- A service that is deleted is not found, and every other one is. -/
theorem lookup_withoutService :
    (m.withoutService key).services.lookup name =
      if name = key then none else m.services.lookup name := by
  show (Rehearsal.forget key m.services).lookup name = _
  by_cases hname : name = key
  · rw [hname, if_pos rfl, Rehearsal.lookup_forget_self]
  · rw [if_neg hname, Rehearsal.lookup_forget_of_ne hname]

/-! ### Calls -/

variable {op : Machine → Except ε α × Machine}

/-- A call of the machine changes nothing but the machine. -/
theorem onMachine_eq (op : Machine → Except ε α × Machine) (w : World Machine) :
    onMachine op w = ((op w.host).1, { w with host := (op w.host).2 }) := rfl

/-- A call that leaves the registry of the machine leaves what is seen of it. -/
theorem sameRegistry_onMachine (h : ∀ m, (op m).2.registry = m.registry) :
    Leads view.SameRegistry (onMachine op) := fun w ↦ content_congr (h w.host)

/-- A registry that is the same is the same besides any key. -/
theorem sameBesides_onMachine (h : ∀ m, (op m).2.registry = m.registry) :
    Leads (view.SameBesides key) (onMachine op) :=
  fun w other _ ↦ congrFun (content_congr (h w.host)) other

/-- Services of which nothing but the run states changes only drift. -/
theorem drifts_of_lookup {w w' : World Machine} (h : ∀ name,
    (w'.host.services.lookup name).map (fun s ↦ (s.info, s.description)) =
      (w.host.services.lookup name).map fun s ↦ (s.info, s.description)) : view.Drifts w w' where
  registered name := by rw [registered_eq, registered_eq, h]
  absent name hnone := by
    rw [entry_eq_none_iff] at hnone ⊢
    have hsame := h name
    rw [hnone, Option.map_none, Option.map_eq_none_iff] at hsame
    exact hsame

/-- A call that leaves the services of the machine lets them drift. -/
theorem drifts_onMachine (h : ∀ m, (op m).2.services = m.services) :
    Leads view.Drifts (onMachine op) := fun w ↦ drifts_of_lookup fun name ↦ by
  rw [onMachine_eq, h]

/-- A run state that changes is no change of a service. -/
theorem lookup_setState (service : String) (state : RunState) :
    ((m.setState service state).services.lookup name).map (fun s ↦ (s.info, s.description)) =
      (m.services.lookup name).map fun s ↦ (s.info, s.description) := by
  rw [setState, lookup_modifyService, Option.map_map]
  refine congrArg (Option.map · _) (funext fun s ↦ ?_)
  rw [Function.comp_apply]
  split
  · rfl
  · rfl

/-- Opening a key changes nothing. -/
theorem openKey_snd (forWriting : Bool) : (m.openKey key forWriting).2 = m := by
  rw [openKey]
  split
  · rfl
  · split
    · rfl
    · rfl

/-- Reading a value changes nothing. -/
theorem value_snd : (m.value key name).2 = m := by
  rw [Machine.value]
  split
  · rfl
  · cases (m.valuesOf key).lookup name
    · rfl
    · rfl

/-- Opening a service changes nothing. -/
theorem openService_snd : (m.openService name).2 = m := by
  rw [openService]
  split
  · rfl
  · split
    · rfl
    · rfl

/-- A query changes nothing but run states and what was scripted. -/
theorem queryStatus_snd (service : String) : (m.queryStatus service).2.registry = m.registry ∧
    ∀ name, ((m.queryStatus service).2.services.lookup name).map (fun s ↦ (s.info, s.description)) =
      (m.services.lookup name).map fun s ↦ (s.info, s.description) := by
  rw [queryStatus]
  split
  · exact ⟨rfl, fun _ ↦ rfl⟩
  · split
    · exact ⟨rfl, fun _ ↦ rfl⟩
    · split
      · exact ⟨rfl, fun _ ↦ lookup_setState ..⟩
      · exact ⟨rfl, fun _ ↦ rfl⟩

/-- What a call of the machine answers and leaves is what its operation does. -/
theorem host_onMachine (op : Machine → Except ε α × Machine) {w w' : World Machine}
    {r : Except ε α} (h : onMachine op w = (r, w')) : op w.host = (r, w'.host) := by
  rw [onMachine_eq] at h
  cases h
  rfl

section

variable {m' : Machine} {info : ServiceInfo} {call : Call} {point argument : String}
  {f : Machine → Machine} {e : ServiceError} {forWriting : Bool}

/-- A key that is opened is the one that was asked for. -/
theorem openKey_ok (h : m.openKey key forWriting = (.ok other, m')) : other = key := by
  rw [openKey] at h
  split_ifs at h
  · cases h
  · cases h
    rfl
  · cases h

/-- A key is said to be missing if it is. -/
theorem openKey_missing (h : m.openKey key forWriting = (.error .notFound, m')) :
    m.hasKey key = false := by
  rw [openKey] at h
  split_ifs at h with hrefused hkey
  · cases h
  · cases h
  · exact Bool.eq_false_iff.2 hkey

/-- What is read is the value. -/
theorem value_ok (h : m.value key name = (.ok value, m')) :
    (m.valuesOf key).lookup name = some value := by
  rw [Machine.value] at h
  split_ifs at h
  · cases h
  · rcases hvalue : (m.valuesOf key).lookup name with - | found
    · rw [hvalue] at h
      cases h
    · rw [hvalue] at h
      cases h
      rfl

/-- A value is said to be missing if it is. -/
theorem value_missing (h : m.value key name = (.error .notFound, m')) :
    (m.valuesOf key).lookup name = none := by
  rw [Machine.value] at h
  split_ifs at h
  · cases h
  · rcases hvalue : (m.valuesOf key).lookup name with - | found
    · rfl
    · rw [hvalue] at h
      cases h

/-- A value that is not refused is set. -/
theorem setValue_ok (h : m.setValue key name value = (.ok (), m')) :
    m' = (m.noting (.setValue key name value)).withValue key name value := by
  rw [setValue] at h
  split_ifs at h
  · cases h
  · cases h
    rfl

/-- After a key was deleted, or was said to be missing, it is not there. -/
theorem hasKey_of_deleteKey
    (h : m.deleteKey key = (.ok (), m') ∨ m.deleteKey key = (.error .notFound, m')) :
    m'.hasKey key = false := by
  rw [deleteKey] at h
  split_ifs at h with hrefused hkey
  · rcases h with h | h
    · cases h
    · cases h
  · rcases h with h | h
    · cases h
      exact hasKey_withoutKey_self
    · cases h
  · rcases h with h | h
    · cases h
    · cases h
      exact Bool.eq_false_iff.2 hkey

/-- A service that is opened is the one that was asked for. -/
theorem openService_ok (h : m.openService name = (.ok other, m')) : other = name := by
  rw [openService] at h
  split_ifs at h
  · cases h
  · cases h
    rfl
  · cases h

/-- A service is said to be missing if it is. -/
theorem openService_missing (h : m.openService name = (.error e, m')) (he : e.isMissing = true) :
    m'.services.lookup name = none := by
  rw [openService] at h
  split_ifs at h with hrefused hthere
  · cases h
    cases he
  · cases h
  · cases h
    exact Option.not_isSome_iff_eq_none.1 hthere

/-- Where a service cannot be made, the services stay. -/
theorem createService_error (h : m.createService info = (.error e, m')) :
    m'.services = m.services := by
  rw [createService] at h
  split_ifs at h
  · cases h
    rfl
  · cases h
    rfl
  · cases h

/-- A service is made only under a name that is free. -/
theorem createService_ok (h : m.createService info = (.ok name, m')) : name = info.name ∧
    m.services.lookup info.name = none ∧
      m' = (m.noting (.createService info)).withService info := by
  rw [createService] at h
  split_ifs at h with hrefused hthere
  · cases h
  · cases h
  · cases h
    exact ⟨rfl, Option.not_isSome_iff_eq_none.1 hthere, rfl⟩

/-- A change that is refused is noted and not made. -/
theorem changing_error (h : m.changing call point argument f = (.error e, m')) :
    m' = m.noting call := by
  rw [changing] at h
  split_ifs at h
  · cases h
    rfl
  · cases h

/-- A change that is not refused is made. -/
theorem changing_ok (h : m.changing call point argument f = (.ok (), m')) :
    m' = f (m.noting call) := by
  rw [changing] at h
  split_ifs at h
  · cases h
  · cases h
    rfl

/-- A change shows where the change that it notes and makes would. -/
theorem changing_snd {β : Type} (look : Machine → β) (hnote : look (m.noting call) = look m)
    (hf : look (f (m.noting call)) = look m) :
    look (m.changing call point argument f).2 = look m := by
  rw [changing]
  split
  · exact hnote
  · exact hf

/-- To ask for a run state is no change of a service. -/
theorem lookup_changing_setState (call : Call) (point service : String) (state : RunState) :
    ((m.changing call point service (·.setState service state)).2.services.lookup name).map
        (fun s ↦ (s.info, s.description)) =
      (m.services.lookup name).map fun s ↦ (s.info, s.description) :=
  changing_snd (fun m ↦ (m.services.lookup name).map fun s ↦ (s.info, s.description)) rfl
    (lookup_setState service state)

/-- To delete a service changes no key that is apart from its record. -/
theorem content_delete {service : String} (h : view.Apart (recordKey service) key) :
    view.content (m.delete service).2 key = view.content m key :=
  changing_snd (fun m ↦ view.content m key) (congrFun (content_congr rfl) key)
    ((content_withoutKey h).trans (congrFun (content_congr rfl) key))

end

/-! ### The laws -/

/-- The registry of the machine obeys the laws. -/
theorem registryLaws : RegistryLaws view where
  content_congr h := by rw [sameName_iff.1 h]
  content_below h hnone := by
    rw [content_eq_none_iff] at hnone ⊢
    rw [Bool.eq_false_iff]
    intro hkey
    rw [hasKey_of_atOrBelow h hkey] at hnone
    cases hnone
  openKey_leaves _ _ forWriting := sameRegistry_onMachine fun m ↦ by rw [openKey_snd forWriting]
  openKey_path h := sameName_iff.2 (openKey_ok (host_onMachine (·.openKey _ _) h))
  openKey_missing h := content_eq_none_iff.2 (openKey_missing (host_onMachine (·.openKey _ _) h))
  value_leaves key name := sameRegistry_onMachine fun m ↦ congrArg registry value_snd
  value_ok h := textAt_eq.trans (value_ok (host_onMachine (·.value _ _) h))
  value_missing h := textAt_eq.trans (value_missing (host_onMachine (·.value _ _) h))
  setValue_ok {key name text w w'} h := by
    rw [setValue_ok (host_onMachine (·.setValue key name text) h)]
    exact textAt_withValue
  deleteTree_ok _ h :=
    content_eq_none_iff.2 (hasKey_of_deleteKey (.inl (host_onMachine (·.deleteKey _) h)))
  deleteTree_missing _ h :=
    content_eq_none_iff.2 (hasKey_of_deleteKey (.inr (host_onMachine (·.deleteKey _) h)))

/-- A service that is made is added. -/
theorem added_of_createService {info : ServiceInfo} {w w' : World Machine}
    (h : w.host.createService info = (.ok name, w'.host)) :
    view.SameName name info.name ∧ view.Added info w w' := by
  obtain ⟨rfl, hnew, hmade⟩ := createService_ok h
  have hlookup (other : String) := @lookup_withService (w.host.noting (.createService info)) other
    info hnew
  rw [← hmade] at hlookup
  refine ⟨rfl, ⟨fun other hne ↦ ?_, fun other hne hnone ↦ ?_⟩, ?_, ?_⟩
  · rw [sameName_iff] at hne
    rw [registered_eq, hlookup, if_neg hne, registered_eq]
    rfl
  · rw [sameName_iff] at hne
    rw [entry_eq_none_iff] at hnone ⊢
    rw [hlookup, if_neg hne]
    exact hnone
  · rw [registered_eq, hnew]
    rfl
  · rw [registered_eq, hlookup, if_pos rfl]
    exact ⟨_, rfl, rfl⟩

/-- A service that is described keeps what it was made with. -/
theorem described_of_setDescription {service text : String} {w w' : World Machine}
    (h : w.host.setDescription service text = (.ok (), w'.host)) : view.Described service w w' := by
  have hlookup (other : String) := @lookup_modifyService
    (w.host.noting (.setDescription service text)) service other
    fun s ↦ { s with description := some text }
  rw [← changing_ok h] at hlookup
  refine ⟨⟨fun other hne ↦ ?_, fun other hne hnone ↦ ?_⟩, fun settings hsettings ↦ ?_⟩
  · rw [sameName_iff] at hne
    rw [registered_eq, hlookup, registered_eq]
    simp only [if_neg hne, Option.map_id']
    rfl
  · rw [entry_eq_none_iff] at hnone ⊢
    rw [hlookup, Option.map_eq_none_iff]
    exact hnone
  · rw [registered_eq] at hsettings
    obtain ⟨known, hknown, rfl⟩ := Option.map_eq_some_iff.1 hsettings
    refine ⟨(known.info, some text), ?_, rfl⟩
    rw [registered_eq, hlookup]
    show ((w.host.services.lookup service).map _).map _ = _
    rw [hknown, Option.map_some, Option.map_some, if_pos rfl]
    rfl

/-- A service that is deleted is removed. -/
theorem removed_of_delete {service : String} {w w' : World Machine}
    (h : w.host.delete service = (.ok (), w'.host)) : view.Removed service w w' := by
  have hlookup (other : String) := @lookup_withoutService (w.host.noting (.delete service)) service
    other
  rw [← changing_ok h] at hlookup
  refine ⟨⟨fun other hne ↦ ?_, fun other hne hnone ↦ ?_⟩, ?_⟩
  · rw [sameName_iff] at hne
    rw [registered_eq, hlookup, if_neg hne, registered_eq]
    rfl
  · rw [sameName_iff] at hne
    rw [entry_eq_none_iff] at hnone ⊢
    rw [hlookup, if_neg hne]
    exact hnone
  · rw [registered_eq, hlookup, if_pos rfl]
    rfl

/-- The service manager of the machine obeys the laws. -/
theorem serviceLaws : ServiceLaws view where
  entry_congr h := by rw [sameName_iff.1 h]
  deleted_held {m name e} hentry hdeleted _ := by
    obtain ⟨known, -, rfl⟩ := Option.map_eq_some_iff.1 hentry
    cases hdeleted
  connect _ := drifts_onMachine fun _ ↦ rfl
  closeManager _ _ := drifts_of_lookup fun _ ↦ rfl
  closeService _ _ := drifts_of_lookup fun _ ↦ rfl
  openService _ _ _ := drifts_onMachine fun m ↦ by rw [openService_snd]
  openService_name h := sameName_iff.2 (openService_ok (host_onMachine (·.openService _) h))
  openService_missing h he :=
    entry_eq_none_iff.2 (openService_missing (host_onMachine (·.openService _) h) he)
  queryStatus service w := drifts_of_lookup (queryStatus_snd service).2
  start service w := drifts_of_lookup fun _ ↦ lookup_changing_setState ..
  stop service w := drifts_of_lookup fun _ ↦ lookup_changing_setState ..
  createService_error h := drifts_of_lookup fun name ↦ by
    rw [createService_error (host_onMachine (·.createService _) h)]
  createService_ok h := added_of_createService (host_onMachine (·.createService _) h)
  setDescription_error h := drifts_of_lookup fun name ↦ by
    rw [changing_error (host_onMachine (·.setDescription _ _) h)]
    rfl
  setDescription_ok h := described_of_setDescription (host_onMachine (·.setDescription _ _) h)
  delete_error h := drifts_of_lookup fun name ↦ by
    rw [changing_error (host_onMachine (·.delete _) h)]
    rfl
  delete_ok h := removed_of_delete (host_onMachine (·.delete _) h)

/-- The parts of the machine touch each other only where they may. -/
theorem partsLaws : PartsLaws view where
  connect _ := sameRegistry_onMachine fun _ ↦ rfl
  closeManager _ _ := rfl
  openService _ _ _ := sameBesides_onMachine fun m ↦ by rw [openService_snd]
  createService manager info rights w other hapart := by
    show view.content (w.host.createService info).2 other = _
    rw [createService]
    split
    · exact congrFun (content_congr rfl) other
    · split
      · exact congrFun (content_congr rfl) other
      · exact (content_withValue hapart).trans (congrFun (content_congr rfl) other)
  closeService _ _ _ _ := rfl
  queryStatus service := sameBesides_onMachine fun _ ↦ (queryStatus_snd service).1
  stop service := sameBesides_onMachine fun _ ↦ changing_snd registry rfl rfl
  setDescription service text := sameBesides_onMachine fun _ ↦ changing_snd registry rfl rfl
  delete service w other hapart := content_delete hapart
  openKey _ _ forWriting := drifts_onMachine fun m ↦ by rw [openKey_snd forWriting]
  deleteTree key name _ := drifts_onMachine fun m ↦ by
    rw [deleteKey]
    split
    · rfl
    · split
      · rfl
      · rfl

/-- **The machine in memory does what Windows is documented to do.** -/
theorem documented : Documented view := ⟨registryLaws, serviceLaws, partsLaws⟩

end ServerSetup.Windows.Machine
