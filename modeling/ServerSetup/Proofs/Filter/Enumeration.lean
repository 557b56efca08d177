import ServerSetup.Proofs.Filter.Scripted
import ServerSetup.Proofs.Rehearsal.ScriptServer

/-!
# Filters as the script prints them

The script prints the collection with a row in brackets for each filter, and a filter with a row for
each property that is set. The filters are read back as they are, whatever texts their properties
have (`filters_of_enumerates`). The reader compares the names of properties without regard to letter
case and ends them at the first colon, so properties whose names differ in letter case only, or have
a colon, are mistaken for each other (`misread_names`).

The format is described apart from the reader: rows with padding, types in parentheses, values with
or without quotes, in any order and with rows of other kinds between them. That what is printed
follows it is a hypothesis on the runs of the script (`Prints`), as is that a run gives the same
answer throughout. What is proved is that the reader gives back the entries, with the defaults for
the properties that are not set, and in the order of the collection.

A property has the value of the first row with its name. So the conditions on the names, different
up to letter case and without a colon, concern only properties that the tool reads.
-/

namespace ServerSetup.AdminScript

variable {η : Type} {s : AdminScript η} {steady : World η → Prop} {arguments : List String}
  {shown shown' : String → Prop} {entries : List StoredFilter} {e : StoredFilter}
  {rows : List Listing.Row} {listing : String} {w : World η}

/-! ### What is printed -/

/-- In the worlds of a kind a run of the script ends well after it has printed a listing, and leaves
a world of the kind. -/
def Prints (s : AdminScript η) (steady : World η → Prop) (arguments : List String)
    (shown : String → Prop) : Prop :=
  ∀ w, steady w → ∃ listing errors w', s.launch (["//nologo", s.path] ++ arguments) w =
    (.ok ⟨0, Text.bytesOf listing, errors⟩, w') ∧ shown listing ∧ steady w'

/-- An entry with nothing set. -/
def unset : StoredFilter where
  name := ""
  enabled := false
  state := 0
  path := ""
  description := ""

/-- The rows show an entry: no two properties have the same name in any letter case, and each
setting of the entry is shown, or it is not set. -/
structure ShowsEntry (e : StoredFilter) (rows : List Listing.Row) : Prop where
  distinct : (rows.filterMap Listing.Row.key?).Nodup
  settings : ∀ setting ∈ settings e,
    (∃ row ∈ rows, row.shown? setting.1 = some setting.2.shown) ∨
      (∀ row ∈ rows, row.shown? setting.1 = none) ∧ setting ∈ settings unset

/-- The script prints entries: their names in order as the child nodes of the collection, and each
entry with its properties, among other rows. -/
structure Enumerates (s : AdminScript η) (entries : List StoredFilter)
    (steady : World η → Prop) : Prop where
  names : s.Prints steady ["ENUM", filtersNode] fun listing ↦ ∃ rows, Listing.Lists listing rows ∧
    rows.filterMap Listing.Row.child? = entries.map StoredFilter.name
  each : ∀ e ∈ entries, s.Prints steady ["ENUM", below filtersNode e.name] fun listing ↦
    ∃ rows, Listing.Lists listing rows ∧ ShowsEntry e rows

/-! ### What is read -/

/-- What is printed is an answer, and what holds of it may be weakened. -/
theorem Prints.answers (h : s.Prints steady arguments shown)
    (hshown : ∀ listing, shown listing → shown' listing) : s.Answers steady arguments shown' := by
  intro w hw
  obtain ⟨listing, errors, w', hlaunch, hlisting, hw'⟩ := h w hw
  refine ⟨listing, w', ?_, hshown listing hlisting, hw'⟩
  rw [run_of_ok hlaunch, if_pos rfl, Text.ofBytesLossy_bytesOf]

/-- A property that no row shows reads as absent. -/
theorem property?_eq_none {property : String} (hlists : Listing.Lists listing rows)
    (hproperty : property.toList.head? ≠ some '[')
    (hnone : ∀ row ∈ rows, row.shown? property = none) :
    Listing.property? listing property = none := by
  rw [Listing.property?_of_lists hlists hproperty, List.findSome?_eq_none_iff.2 hnone]
  rfl

/-- What is made of a property is right if it is right for the value of a setting that is shown, and
for no value where the setting is not set. -/
theorem read_of_showsEntry (hlists : Listing.Lists listing rows) (h : ShowsEntry e rows)
    {property : String} {value : Listing.Value} (hsetting : (property, value) ∈ settings e)
    {α : Type} (read : Option String → α) {a : α}
    (hshown : read (some (String.ofList value.read)) = a)
    (hunset : (property, value) ∈ settings unset → read none = a) :
    read (Listing.property? listing property) = a := by
  have hproperty : property.toList.head? ≠ some '[' := by
    have hall : ∀ property ∈ ["FilterEnabled", "FilterState", "FilterPath", "FilterDescription"],
        property.toList.head? ≠ some '[' := by decide
    exact hall property (List.mem_map_of_mem (f := Prod.fst) hsetting)
  obtain ⟨row, hrow, hvalue⟩ | ⟨hnone, hmem⟩ := h.settings _ hsetting
  · rw [Listing.property?_of_lists hlists hproperty,
      Listing.findSome?_shown?_of_mem h.distinct hrow hvalue, Option.map_some,
      Listing.Value.unquoted_shown, hshown]
  · rw [property?_eq_none hlists hproperty hnone, hunset hmem]

/-- **An entry is read from the rows that show it.** -/
theorem entryOf_of_showsEntry (hlists : Listing.Lists listing rows) (h : ShowsEntry e rows) :
    entryOf e.name listing = e := by
  have henabled : (Listing.property? listing "FilterEnabled").any Listing.isTrue = e.enabled := by
    refine read_of_showsEntry hlists h (.head _) (·.any Listing.isTrue)
      (Listing.isTrue_read e.enabled) fun hunset ↦ ?_
    have hoff : e.enabled = false := by simpa [settings, unset] using hunset
    exact hoff.symm
  have hstate : UInt32.ofNat (((Listing.property? listing "FilterState").bind fun value ↦
      Text.boundedUnsigned? 0xFFFFFFFF value.toList).getD 0) = e.state := by
    refine read_of_showsEntry hlists h (.tail _ (.head _)) (fun value? ↦ UInt32.ofNat
      ((value?.bind fun value ↦ Text.boundedUnsigned? 0xFFFFFFFF value.toList).getD 0)) ?_
      fun hunset ↦ ?_
    · rw [Option.bind_some, String.toList_ofList, Listing.ofNat_read]
    · have hzero : e.state.toNat = 0 := by simpa [settings, unset] using hunset
      exact (UInt32.toNat_inj.1 hzero).symm
  have hpath : (Listing.property? listing "FilterPath").getD "" = e.path := by
    refine read_of_showsEntry hlists h (.tail _ (.tail _ (.head _))) (·.getD "")
      String.ofList_toList fun hunset ↦ ?_
    have hempty : e.path = "" := by simpa [settings, unset] using hunset
    exact hempty.symm
  have hdescription : (Listing.property? listing "FilterDescription").getD "" = e.description := by
    refine read_of_showsEntry hlists h (.tail _ (.tail _ (.tail _ (.head _)))) (·.getD "")
      String.ofList_toList fun hunset ↦ ?_
    have hempty : e.description = "" := by simpa [settings, unset] using hunset
    exact hempty.symm
  rw [entryOf, henabled, hstate, hpath, hdescription]

/-- A script that prints a fixed listing in each run. -/
def printing (listings : List (List String × String)) : AdminScript Unit where
  path := "adsutil.vbs"
  start line := pure <| match listings.lookup (line.drop 2) with
    | some listing => .ok { output := Text.bytesOf listing }
    | none => .ok { code := 1 }

/-- A script that prints given listings answers the question for one of them. -/
theorem prints_printing {listings : List (List String × String)}
    (hlookup : listings.lookup arguments = some listing)
    (hnul : arguments.any (·.toList.contains '\x00') = false) (hshown : shown listing) :
    (printing listings).Prints (fun _ ↦ True) arguments shown := by
  intro w _
  have hnone : ¬ (["//nologo", "adsutil.vbs"] ++ arguments).any (·.toList.contains '\x00') =
      true := by
    rw [List.any_append, hnul]
    decide
  have hstart : (printing listings).start (["//nologo", "adsutil.vbs"] ++ arguments) w =
      (.ok { output := Text.bytesOf listing }, w) := by
    show (match listings.lookup arguments with | some _ => _ | none => _, w) = _
    rw [hlookup]
  exact ⟨listing, [], w, (launch_eq _ _ w).trans ((if_neg hnone).trans hstart), hshown, trivial⟩

/-- **The filters are read back as the script prints them.** A property that no row of a listing
shows reads as absent, whatever the rows are. -/
theorem filters_of_enumerates (h : s.Enumerates entries steady) (hw : steady w) :
    (∃ w', s.store.filters w = (.ok entries, w') ∧ steady w') ∧
      ∀ listing rows property, Listing.Lists listing rows → property.toList.head? ≠ some '[' →
        (∀ row ∈ rows, row.shown? property = none) →
          Listing.property? listing property = none := by
  refine ⟨?_, fun listing rows property ↦ property?_eq_none⟩
  refine filters_of_answers (h.names.answers ?_) (fun e he ↦ (h.each e he).answers ?_) hw
  · rintro listing ⟨rows, hlists, hrows⟩
    exact (Listing.children_of_lists hlists).trans hrows
  · rintro listing ⟨rows, hlists, hrows⟩
    exact entryOf_of_showsEntry hlists hrows

/-- Two filters, one with a name and a path that look like other rows and with nothing else set. -/
theorem filters_of_enumerates_resin :
    let nodes : List Listing.Item := [.property "KeyType" (.text "IIsFilters".toList),
      .child "FilterPath : (STRING) b", .child "Resin"]
    let node : List Listing.Item := [.property "filterpath" (.text "[C:\\x: (y)] \"z\"".toList),
      .property "FilterState" (.number 4), .child "FilterEnabled : (BOOLEAN) True"]
    let script := printing [(["ENUM", filtersNode], Listing.listingOf nodes),
      (["ENUM", below filtersNode "FilterPath : (STRING) b"], ""),
      (["ENUM", below filtersNode "Resin"], Listing.listingOf node)]
    let entries : List StoredFilter := [{ unset with name := "FilterPath : (STRING) b" },
      { unset with name := "Resin", state := 4, path := "[C:\\x: (y)] \"z\"" }]
    let w : World Unit :=
      { disk := { tree := .empty, workDirectory := [] }, environment := ⟨[]⟩, host := () }
    script.Enumerates entries (fun _ ↦ True) ∧
      ∃ w', script.store.filters w = (.ok entries, w') := by
  intro nodes node script entries w
  have hplain {name : String} {value : Listing.Value} (hnonempty : name.toList ≠ [])
      (hall : name.toList.all Char.isAlphanum = true) (hvalue : '\n' ∉ value.shown) :
      Listing.IsPlain (.property name value) :=
    .property (Listing.isPropertyName_of_all hnonempty hall) hvalue
  have hnodes : Listing.Lists (Listing.listingOf nodes) (nodes.map Listing.Item.row) := by
    refine (Listing.shows_listingOf fun item hitem ↦ ?_).lists
    simp only [nodes, List.mem_cons, List.not_mem_nil, or_false] at hitem
    rcases hitem with rfl | rfl | rfl
    · exact hplain (by decide) (by decide) (by decide)
    · exact .child ⟨by decide, by decide⟩ (by decide)
    · exact .child ⟨by decide, by decide⟩ (by decide)
  have hnode : Listing.Lists (Listing.listingOf node) (node.map Listing.Item.row) := by
    refine (Listing.shows_listingOf fun item hitem ↦ ?_).lists
    simp only [node, List.mem_cons, List.not_mem_nil, or_false] at hitem
    rcases hitem with rfl | rfl | rfl
    · exact hplain (by decide) (by decide) (by decide)
    · exact hplain (by decide) (by decide) (by decide)
    · exact .child ⟨by decide, by decide⟩ (by decide)
  have hshows : ShowsEntry entries[1] (node.map Listing.Item.row) := by
    refine ⟨by decide +kernel, fun setting hsetting ↦ ?_⟩
    simp only [entries, settings, List.getElem_cons_succ, List.getElem_cons_zero, List.mem_cons,
      List.not_mem_nil, or_false] at hsetting
    rcases hsetting with rfl | rfl | rfl | rfl
    · exact .inr ⟨by decide +kernel, .head _⟩
    · exact .inl ⟨_, .tail _ (.head _), by decide +kernel⟩
    · exact .inl ⟨_, .head _, by decide +kernel⟩
    · exact .inr ⟨by decide +kernel, .tail _ (.tail _ (.tail _ (.head _)))⟩
  have hunset : ShowsEntry entries[0] [] := ⟨.nil, fun setting hsetting ↦ .inr ⟨nofun, hsetting⟩⟩
  have henumerates : script.Enumerates entries (fun _ ↦ True) := by
    refine ⟨prints_printing rfl (by decide) ⟨_, hnodes, rfl⟩, fun e he ↦ ?_⟩
    simp only [entries, List.mem_cons, List.not_mem_nil, or_false] at he
    rcases he with rfl | rfl
    · exact prints_printing rfl (by decide) ⟨[], .nil, hunset⟩
    · exact prints_printing rfl (by decide) ⟨_, hnode, hshows⟩
  obtain ⟨⟨w', hread, -⟩, -⟩ := filters_of_enumerates henumerates (w := w) trivial
  exact ⟨henumerates, w', hread⟩

/-- Names that differ in letter case only, names with a colon, and rows in brackets are misread: the
first property counts for the second, a part of a name for the name, and a property for a filter. -/
theorem misread_names :
    let script := printing [(["ENUM", filtersNode], "[/W3SVC/Filters/Resin]\n"),
      (["ENUM", below filtersNode "Resin"],
        "filterpath : (STRING) \"a\"\nFilterPath : (STRING) \"b\"\n")]
    let w : World Unit :=
      { disk := { tree := .empty, workDirectory := [] }, environment := ⟨[]⟩, host := () }
    (∃ w', script.store.filters w = (.ok [{ unset with name := "Resin", path := "a" }], w')) ∧
      Listing.property? "FilterPath:x : (STRING) \"v\"\n" "FilterPath" =
        some "x : (STRING) \"v\"" ∧
      Listing.children "[x : (BINARY) 0]\n" = ["x : (BINARY) 0"] := by
  intro script w
  refine ⟨?_, by decide +kernel, by decide +kernel⟩
  have hnames : script.Prints (fun _ ↦ True) ["ENUM", filtersNode]
      (Listing.children · = ["Resin"]) := prints_printing rfl (by decide) (by decide +kernel)
  have hentry : script.Prints (fun _ ↦ True) ["ENUM", below filtersNode "Resin"]
      (entryOf "Resin" · = { unset with name := "Resin", path := "a" }) :=
    prints_printing rfl (by decide) (by decide +kernel)
  have heach : ∀ e ∈ [{ unset with name := "Resin", path := "a" }], script.Answers (fun _ ↦ True)
      ["ENUM", below filtersNode e.name] (entryOf e.name · = e) :=
    fun e he ↦ List.mem_singleton.1 he ▸ hentry.answers fun _ ↦ id
  obtain ⟨w', hread, -⟩ := filters_of_answers (w := w) (hnames.answers fun _ ↦ id) heach trivial
  exact ⟨w', hread⟩

end ServerSetup.AdminScript
