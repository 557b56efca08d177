import ServerSetup.Proofs.Filter.Calls
import ServerSetup.Proofs.Filter.LoadOrder
import ServerSetup.Proofs.Rehearsal.ScriptServer

/-!
# Registering the filter again through the administration script

A registration writes the entry of the filter through the script, and the next one reads it back. It
finds everything in its place exactly if the node of the filter was spelled as the filter is, or was
not there: putting an entry into a node that is there keeps the spelling of the node, and whether
the entry is as it should be is decided with regard to letter case.

The statement is about two registrations in a row (`register_again_iff`). The second one reports
that nothing had to be done if the first left the wanted entry and the name in the load order, and
then it asks questions only. Otherwise it writes the same entry again and reports a change, as every
later one will, since the spelling of the node never changes. The direction that asks for an
argument is the second: that the entry read back differs in its name is shown from what the script
does, and not assumed.

The script itself is a parameter. What is said of it is in `AdminScript.Serves`, and the examples
run on a server in memory for which these laws are proved.
-/

namespace ServerSetup

namespace FilterCollection

variable {c : FilterCollection} {name : String}

/-- A name is in the spelling of its node if the node is spelled so, or is not there. -/
theorem spelling_eq_iff : c.spelling name = name ↔ ∀ node ∈ c.nodes,
    Text.equalIgnoringCase node.name name = true → node.name = name := by
  rcases hfound : c.node? name with - | node
  · have hnone : ∀ node ∈ c.nodes, ¬ Text.equalIgnoringCase node.name name = true :=
      List.find?_eq_none.1 hfound
    rw [spelling, hfound]
    exact ⟨fun _ node hnode hname ↦ absurd hname (hnone node hnode), fun _ ↦ rfl⟩
  · have hmem : node ∈ c.nodes := List.mem_of_find?_eq_some hfound
    have hname : Text.equalIgnoringCase node.name name = true := by
      simpa using List.find?_some hfound
    rw [spelling, hfound, Option.map_some, Option.getD_some]
    constructor
    · intro hspelled other hother hname'
      rw [eq_of_equalIgnoringCase hother hmem hname' hname, hspelled]
    · intro hall
      exact hall node hmem hname

end FilterCollection

namespace AdminScript

variable {η : Type} {s : AdminScript η} {content : η → FilterCollection}
  {journal : η → List (List String)} {settings : FilterSettings} {home scripts order : String}
  {w w' : World η} {entries : List StoredFilter}

/-- The filter that settings describe, in the store behind the script. -/
def filter (s : AdminScript η) (settings : FilterSettings) : FilterSetup η := ⟨s.store, settings⟩

/-- What a listing has to show of a filter has no line breaks. -/
structure OneLine (f : FilterSetup η) (scripts : String) : Prop where
  name : '\n' ∉ f.settings.name.toList
  target : '\n' ∉ (f.target scripts).toList
  description : '\n' ∉ f.settings.description.toList

/-- The entry of the filter is the one of its node, whatever the spelling. -/
theorem entry?_nodes (s : AdminScript η) (settings : FilterSettings) (c : FilterCollection) :
    FilterSetup.entry? (s.filter settings) (c.nodes.map FilterNode.entry) =
      (c.node? settings.name).map FilterNode.entry := by
  rw [FilterSetup.entry?, List.find?_map]
  rfl

/-- The entry is put again unless the collection has it as it is wanted, letter case included. -/
theorem entries_nodes (s : AdminScript η) (settings : FilterSettings) (scripts : String)
    (c : FilterCollection) :
    ((s.filter settings).registration scripts).entries (c.nodes.map FilterNode.entry) =
      if (c.node? settings.name).map FilterNode.entry = some ((s.filter settings).wanted scripts)
      then none else some (.put ((s.filter settings).wanted scripts)) := by
  simp [FilterSetup.registration, entry?_nodes]

/-- A commit of what was written through the script does nothing. -/
theorem makeAll_closing (plan : FilterPlan) :
    s.store.makeAll (plan.closing entries order) w = (.ok (), w) := by
  rw [FilterPlan.closing]
  split
  · rfl
  · rfl

namespace Serves

variable (h : s.Serves content journal)

include h

/-- After the entries were dealt with, the filter has its entry in the spelling of its node. -/
theorem of_makeAll_entries (hname : Listing.IsNodeName settings.name.toList)
    (hline : OneLine (s.filter settings) scripts)
    (hmake : s.store.makeAll (((s.filter settings).registration scripts).entries
      ((content w.host).nodes.map FilterNode.entry)).toList w = (.ok (), w')) :
    w.SameButHost w' ∧ (content w'.host).loadOrder = (content w.host).loadOrder ∧
      ((content w'.host).node? settings.name).map FilterNode.entry =
        some { (s.filter settings).wanted scripts with
          name := (content w.host).spelling settings.name } := by
  by_cases hwanted : ((content w.host).node? settings.name).map FilterNode.entry =
      some ((s.filter settings).wanted scripts)
  · rw [entries_nodes, if_pos hwanted] at hmake
    cases FilterStore.makeAll_nil_iff.1 hmake
    obtain ⟨node, hnode, hentry⟩ := Option.map_eq_some_iff.1 hwanted
    have hspelled : (content w.host).spelling settings.name = settings.name := by
      rw [FilterCollection.spelling, hnode]
      exact congrArg StoredFilter.name hentry
    refine ⟨.refl w, rfl, ?_⟩
    rw [hwanted, hspelled]
    rfl
  · rw [entries_nodes, if_neg hwanted] at hmake
    obtain ⟨w₁, hmake, hrest⟩ := FilterStore.makeAll_cons_iff.1 hmake
    cases FilterStore.makeAll_nil_iff.1 hrest
    exact h.put (e := (s.filter settings).wanted scripts) hname hline.target hline.description hmake

/-- After the load order was dealt with, the filter has a place in it. -/
theorem of_makeAll_order (hname : LoadOrder.IsName settings.name.toList)
    (hline : OneLine (s.filter settings) scripts)
    (hmake : s.store.makeAll (((s.filter settings).registration scripts).orderWrites
        (content w.host).loadOrder ++
      ((s.filter settings).registration scripts).closing entries (content w.host).loadOrder) w =
        (.ok (), w')) :
    w.SameButHost w' ∧ (∀ name, (content w'.host).node? name = (content w.host).node? name) ∧
      LoadOrder.mentions (content w'.host).loadOrder settings.name = true := by
  have hmentions := (LoadOrder.occurrences_add? (content w.host).loadOrder hname).1
  rw [FilterPlan.orderWrites] at hmake
  -- If the name is already mentioned, nothing is written. Otherwise there is one write, and the
  -- server shows what was written.
  rcases hadd : LoadOrder.add? (content w.host).loadOrder settings.name with - | changed
  · have hnone : ((s.filter settings).registration scripts).loadOrder (content w.host).loadOrder =
        none := hadd
    rw [hnone, Option.map_none, Option.toList_none, List.nil_append, makeAll_closing] at hmake
    cases hmake
    rw [hadd, Option.getD_none] at hmentions
    exact ⟨.refl w, fun _ ↦ rfl, LoadOrder.mentions_iff.2 (by omega)⟩
  · have hsome : ((s.filter settings).registration scripts).loadOrder (content w.host).loadOrder =
        some changed := hadd
    rw [hsome, Option.map_some, Option.toList_some, List.singleton_append] at hmake
    obtain ⟨w₁, hset, hrest⟩ := FilterStore.makeAll_cons_iff.1 hmake
    rw [makeAll_closing] at hrest
    cases hrest
    obtain ⟨output, hdoes⟩ := does_of_setProperty hset
    have hsets := h.setsOrder (LoadOrder.notMem_of_add? (by decide) (content w.host).oneLine
      hline.name hadd) hdoes
    rw [hadd, Option.getD_some] at hmentions
    refine ⟨h.sameButHost hdoes, hsets.node, ?_⟩
    rw [hsets.loadOrder, LoadOrder.mentions_iff]
    omega

/-- **What a registration leaves that got through the store:** the filter's entry, in the spelling
of its node, and a place in the load order. -/
theorem of_carried (hname : LoadOrder.IsName settings.name.toList)
    (hslash : '/' ∉ settings.name.toList) (hline : OneLine (s.filter settings) scripts)
    (hcarried : s.store.Carried ((s.filter settings).registration scripts) entries order w w') :
    w.SameButHost w' ∧
      ((content w'.host).node? settings.name).map FilterNode.entry =
        some { (s.filter settings).wanted scripts with
          name := (content w.host).spelling settings.name } ∧
      LoadOrder.mentions (content w'.host).loadOrder settings.name = true := by
  obtain ⟨w₁, w₂, w₃, hfilters, hentry, horder, hrest⟩ := hcarried
  obtain ⟨_, hfilters', hasks⟩ := h.filters_eq w
  cases hfilters.symm.trans hfilters'
  rw [← hasks.content] at hentry
  obtain ⟨helsewhere, hsame, hnode⟩ := h.of_makeAll_entries ⟨hname.nonempty, hslash⟩ hline hentry
  obtain ⟨_, horder', hasks'⟩ := h.loadOrder_eq w₂
  cases horder.symm.trans horder'
  rw [← hasks'.content] at hrest
  obtain ⟨helsewhere', hsame', hmentions⟩ := h.of_makeAll_order hname hline hrest
  refine ⟨((hasks.elsewhere.trans helsewhere).trans hasks'.elsewhere).trans helsewhere', ?_,
    hmentions⟩
  rw [hsame', hasks'.content, hnode, hasks.content]

/-- **Where everything is in its place,** a registration asks questions and changes nothing. -/
theorem carryOut_of_complete (hentry : ((content w.host).node? settings.name).map FilterNode.entry =
      some ((s.filter settings).wanted scripts))
    (hmentions : LoadOrder.mentions (content w.host).loadOrder settings.name = true) :
    ∃ w', s.store.carryOut ((s.filter settings).registration scripts) w = (.ok false, w') ∧
      Asks content journal w w' := by
  obtain ⟨w₁, hfilters, hasks⟩ := h.filters_eq w
  obtain ⟨w', horder, hasks'⟩ := h.loadOrder_eq w₁
  have hentries : ((s.filter settings).registration scripts).entries
      ((content w.host).nodes.map FilterNode.entry) = none := by
    rw [entries_nodes, if_pos hentry]
  have horders : ((s.filter settings).registration scripts).loadOrder (content w₁.host).loadOrder =
      none := by
    rw [hasks.content]
    exact LoadOrder.add?_eq_none_iff.2 (LoadOrder.mentions_iff.1 hmentions)
  have hwrites : ((s.filter settings).registration scripts).writes
      ((content w.host).nodes.map FilterNode.entry) (content w₁.host).loadOrder = [] := by
    rw [FilterPlan.writes, FilterPlan.orderWrites, hentries, horders]
    rfl
  refine ⟨w', FilterStore.carryOut_eq_ok_iff.2 ⟨_, _, ⟨w₁, w₁, w', hfilters, ?_, horder, ?_⟩, ?_⟩,
    hasks.trans hasks'⟩
  · rw [hentries]
    rfl
  · rw [FilterPlan.orderWrites, horders, FilterPlan.closing_of_writes_eq_nil hwrites]
    rfl
  · rw [hwrites]
    rfl

/-- A registration that finds everything in its place has found the entry as it is wanted. -/
theorem entry_of_carryOut
    (hcarry : s.store.carryOut ((s.filter settings).registration scripts) w = (.ok false, w')) :
    ((content w.host).node? settings.name).map FilterNode.entry =
      some ((s.filter settings).wanted scripts) := by
  obtain ⟨entries, order, ⟨w₁, w₂, w₃, hfilters, -, -, -⟩, hchanged⟩ :=
    FilterStore.carryOut_eq_ok_iff.1 hcarry
  obtain ⟨_, hfilters', -⟩ := h.filters_eq w
  cases hfilters.symm.trans hfilters'
  by_contra hentry
  rw [FilterPlan.writes, entries_nodes, if_neg hentry] at hchanged
  cases hchanged

/-- **Registering once more finds everything in its place exactly if the node of the filter is
spelled as the filter is.** Then nothing but questions is asked. -/
theorem register_again (hdisk : w.disk.WellFormed)
    (hname : LoadOrder.IsName settings.name.toList) (hslash : '/' ∉ settings.name.toList)
    (hline : OneLine (s.filter settings) scripts)
    (hfirst : ((s.filter settings).register home scripts w).1.status = .configuredOk) :
    let w₁ := ((s.filter settings).register home scripts w).2
    let w₂ := ((s.filter settings).register home scripts w₁).2
    (((s.filter settings).register home scripts w₁).1.status = .alreadyConfigured ↔
        (content w.host).spelling settings.name = settings.name) ∧
      (((s.filter settings).register home scripts w₁).1.status = .alreadyConfigured →
        ∃ runs, journal w₂.host = journal w₁.host ++ runs ∧ ∀ run ∈ runs, IsQuestion run) := by
  intro w₁ w₂
  obtain ⟨v, hcarry, hcopy⟩ := (FilterSetup.register_succeeds_iff true).1 hfirst
  have hw₁ : w₁ = { v with disk := _ } := FilterSetup.register_of_carryOut hcarry
  obtain ⟨entries, order, hcarried, -⟩ := FilterStore.carryOut_eq_ok_iff.1 hcarry
  obtain ⟨helsewhere, hentry, hmentions⟩ := h.of_carried hname hslash hline hcarried
  rw [helsewhere.disk] at hcopy hw₁
  have hhost : w₁.host = v.host := by rw [hw₁]
  have hagain : (Disk.copy ((s.filter settings).source home) ((s.filter settings).target scripts)
      w₁.disk).1 = .ok () := by
    obtain ⟨goal, copied, -, hcopied⟩ := hdisk.copy_copy hcopy
    rw [hw₁, hcopied]
  -- The entry that is found differs from the one that is wanted in its spelling only.
  have hspelled : ((content w₁.host).node? settings.name).map FilterNode.entry =
      some ((s.filter settings).wanted scripts) ↔
        (content w.host).spelling settings.name = settings.name := by
    rw [hhost, hentry, Option.some.injEq]
    exact ⟨congrArg StoredFilter.name, fun hname ↦ by rw [hname]; rfl⟩
  have hcomplete (hname : (content w.host).spelling settings.name = settings.name) :
      ∃ w', s.store.carryOut ((s.filter settings).registration scripts) w₁ = (.ok false, w') ∧
        Asks content journal w₁ w' :=
    h.carryOut_of_complete (hspelled.2 hname) (hhost ▸ hmentions)
  have hiff : ((s.filter settings).register home scripts w₁).1.status = .alreadyConfigured ↔
      (content w.host).spelling settings.name = settings.name := by
    constructor
    · intro hstatus
      obtain ⟨v', hcarry', hcopy'⟩ := (FilterSetup.register_succeeds_iff false).1 hstatus
      exact hspelled.1 (h.entry_of_carryOut hcarry')
    · intro hname
      obtain ⟨w', hcarry', hasks⟩ := hcomplete hname
      exact (FilterSetup.register_succeeds_iff false).2
        ⟨w', hcarry', hasks.elsewhere.disk ▸ hagain⟩
  refine ⟨hiff, fun hstatus ↦ ?_⟩
  obtain ⟨w', hcarry', hasks⟩ := hcomplete (hiff.1 hstatus)
  have hw₂ : w₂ = { w' with disk := _ } := FilterSetup.register_of_carryOut hcarry'
  rw [hw₂]
  exact hasks.journal

end Serves

/-- **A registration behind one that reports a change reports that there was nothing to do exactly
if every node with the name of the filter was spelled as the filter is.** Then it asks questions
only; it sets, makes and deletes nothing. -/
theorem register_again_iff (h : s.Serves content journal) (hdisk : w.disk.WellFormed)
    (hname : LoadOrder.IsName settings.name.toList) (hslash : '/' ∉ settings.name.toList)
    (hline : OneLine (s.filter settings) scripts)
    (hfirst : ((s.filter settings).register home scripts w).1.status = .configuredOk) :
    let w₁ := ((s.filter settings).register home scripts w).2
    let w₂ := ((s.filter settings).register home scripts w₁).2
    (((s.filter settings).register home scripts w₁).1.status = .alreadyConfigured ↔
        ∀ node ∈ (content w.host).nodes, Text.equalIgnoringCase node.name settings.name = true →
          node.name = settings.name) ∧
      (((s.filter settings).register home scripts w₁).1.status = .alreadyConfigured →
        ∃ runs, journal w₂.host = journal w₁.host ++ runs ∧ ∀ run ∈ runs, IsQuestion run) := by
  rw [← FilterCollection.spelling_eq_iff]
  exact h.register_again hdisk hname hslash hline hfirst

end AdminScript

namespace ScriptServer

open AdminScript

/-- A server with another filter, and with the node of the filter in its spelling and switched
off. -/
def switchedOff : FilterCollection where
  nodes := [nodeWith "sspifilt" [("FilterPath", .text "/inetsrv/sspifilt.dll".toList)]
      (by decide) (by decide),
    nodeWith "Resin" [("FilterEnabled", .flag false)] (by decide) (by decide)]
  loadOrder := "sspifilt"
  distinct := by decide
  oneLine := by decide

/-- A server on which everything is in its place, but for the spelling of the filter's node. -/
def misspelled : FilterCollection where
  nodes := [nodeWith "resin" [("FilterEnabled", .flag true), ("FilterState", .number 4),
      ("FilterPath", .text "/scripts/isapi_srun.dll".toList),
      ("FilterDescription", .text "isapi_srun Extension".toList)] (by decide) (by decide)]
  loadOrder := "Resin"
  distinct := by decide
  oneLine := by decide

theorem oneLine_script : OneLine (script.filter {}) "/scripts" :=
  ⟨by decide +kernel, by decide +kernel, by decide +kernel⟩

theorem isName_settings : LoadOrder.IsName ({} : FilterSettings).name.toList :=
  Rehearsal.isName_filterSetup

theorem noSlash_settings : '/' ∉ ({} : FilterSettings).name.toList := by decide

/-- On the disk of the server a registration succeeds as its plan does. -/
theorem status_register {filters : FilterCollection} {changed : Bool}
    (hcarry : (script.store.carryOut ((script.filter {}).registration "/scripts")
      (world filters)).1 = .ok changed) :
    ((script.filter {}).register "/home" "/scripts" (world filters)).1.status =
      (FilterCall.register "/home" "/scripts").success changed := by
  rcases hrun : script.store.carryOut ((script.filter {}).registration "/scripts")
    (world filters) with ⟨_, w'⟩
  obtain rfl : _ = Except.ok changed := congrArg Prod.fst hrun ▸ hcarry
  obtain ⟨entries, order, hcarried, -⟩ := FilterStore.carryOut_eq_ok_iff.1 hrun
  have helsewhere := (serves.of_carried isName_settings noSlash_settings oneLine_script hcarried).1
  refine (FilterSetup.register_succeeds_iff changed).2 ⟨w', hrun, ?_⟩
  rw [helsewhere.disk]
  exact Rehearsal.copy_serverDisk

theorem carryOut_switchedOff : (script.store.carryOut ((script.filter {}).registration "/scripts")
    (world switchedOff)).1 = .ok true := by
  decide +kernel

theorem carryOut_misspelled : (script.store.carryOut ((script.filter {}).registration "/scripts")
    (world misspelled)).1 = .ok true := by
  decide +kernel

/-- A node that is there in the spelling of the filter is switched on once. -/
theorem switchedOff_settles :
    script.Serves filters runs ∧ (world switchedOff).disk.WellFormed ∧
      LoadOrder.IsName ({} : FilterSettings).name.toList ∧
      '/' ∉ ({} : FilterSettings).name.toList ∧ OneLine (script.filter {}) "/scripts" ∧
      ((script.filter {}).register "/home" "/scripts" (world switchedOff)).1.status =
        .configuredOk ∧
      ((script.filter {}).register "/home" "/scripts"
        ((script.filter {}).register "/home" "/scripts" (world switchedOff)).2).1.status =
          .alreadyConfigured := by
  have hfirst : ((script.filter {}).register "/home" "/scripts" (world switchedOff)).1.status =
      .configuredOk := status_register carryOut_switchedOff
  refine ⟨serves, Rehearsal.wellFormed_serverDisk, isName_settings, noSlash_settings,
    oneLine_script, hfirst, ?_⟩
  refine (register_again_iff serves Rehearsal.wellFormed_serverDisk isName_settings
    noSlash_settings oneLine_script hfirst).1.2 fun node hnode hname ↦ ?_
  rcases List.mem_cons.1 hnode with rfl | hnode
  · exact absurd hname (by decide)
  · rw [List.mem_singleton.1 hnode]
    rfl

/-- A node in another spelling is never found to be as it should be: everything is in its place on
the server, and the second registration reports a change like the first. -/
theorem misspelled_never_settles :
    script.Serves filters runs ∧ (world misspelled).disk.WellFormed ∧
      LoadOrder.IsName ({} : FilterSettings).name.toList ∧
      '/' ∉ ({} : FilterSettings).name.toList ∧ OneLine (script.filter {}) "/scripts" ∧
      ((script.filter {}).register "/home" "/scripts" (world misspelled)).1.status = .configuredOk ∧
      ((script.filter {}).register "/home" "/scripts"
        ((script.filter {}).register "/home" "/scripts" (world misspelled)).2).1.status ≠
          .alreadyConfigured := by
  have hfirst : ((script.filter {}).register "/home" "/scripts" (world misspelled)).1.status =
      .configuredOk := status_register carryOut_misspelled
  refine ⟨serves, Rehearsal.wellFormed_serverDisk, isName_settings, noSlash_settings,
    oneLine_script, hfirst, fun hagain ↦ ?_⟩
  have hspelled := (serves.register_again Rehearsal.wellFormed_serverDisk isName_settings
    noSlash_settings oneLine_script hfirst).1.1 hagain
  exact absurd hspelled (by decide +kernel)

end ScriptServer

end ServerSetup
