import Mathlib.Data.List.Nodup
import Mathlib.Logic.Function.Basic
import ServerSetup.Filter.AdminScript
import ServerSetup.Proofs.Filter.Listing
import ServerSetup.Proofs.Operation
import ServerSetup.Proofs.Text.Utf8

/-!
# The collection behind the administration script

The script gives access to a collection with a node for each filter. What is relied on is said of
the runs of the script (`AdminScript.Serves`): a question is answered with a listing of what the
collection holds, a change that is reported as done is done, names are compared without regard to
letter case, and a node keeps the spelling with which it was made. What a change leaves behind that
is not reported as done is open.

So what is written through one interface is read back through the other: reading gives the entries
of the nodes and asks questions only (`Serves.filters_eq`), and after an entry was put its node has
the entry's values, in the node's own spelling (`Serves.put`).

The collection is a value with its own conditions built in: names are different up to letter case
and can be listed, and no text has a line break. A view maps the states of the host to it, and
another one to the journal of the runs that have changed something. A host that follows these laws
may do anything else besides, as long as it stays out of the rest of the world
(`World.SameButHost`).
-/

namespace ServerSetup

/-! ### The collection -/

/-- The node of a filter: its name and the values of its properties. -/
structure FilterNode where
  name : String
  value : String → Option Listing.Value
  named : Listing.IsNodeName name.toList
  noNul : '\x00' ∉ name.toList
  oneLine : '\n' ∉ name.toList
  oneLineEach : ∀ property, ∀ v ∈ value property, '\n' ∉ v.shown

namespace FilterNode

variable (node : FilterNode)

/-- The properties of a filter. -/
def properties : List String := ["FilterEnabled", "FilterState", "FilterPath", "FilterDescription"]

/-- A property as a text, if it has a value. -/
def text? (property : String) : Option String :=
  (node.value property).map fun v ↦ String.ofList v.read

/-- The entry that a node is. What has no value is off, zero or empty. -/
def entry : StoredFilter where
  name := node.name
  enabled := (node.text? "FilterEnabled").any Listing.isTrue
  state := .ofNat (((node.text? "FilterState").bind fun value ↦
    Text.boundedUnsigned? 0xFFFFFFFF value.toList).getD 0)
  path := (node.text? "FilterPath").getD ""
  description := (node.text? "FilterDescription").getD ""

/-- A listing shows the properties of a filter that have values, and perhaps other things. -/
def ShownBy (listing : String) : Prop :=
  ∃ items, Listing.Shows listing items ∧
    ∀ property ∈ properties, items.filterMap (Listing.Item.value? property) =
      (node.value property).toList

end FilterNode

/-- The filters of a server. No two nodes have the same name in different letter case. -/
structure FilterCollection where
  nodes : List FilterNode
  loadOrder : String
  distinct : (nodes.map fun node ↦ node.name.toList.map Char.toLower).Nodup
  oneLine : '\n' ∉ loadOrder.toList

namespace FilterCollection

variable (c : FilterCollection)

/-- The node of a name in any letter case. -/
def node? (name : String) : Option FilterNode :=
  c.nodes.find? fun node ↦ Text.equalIgnoringCase node.name name

/-- A name in the spelling of its node, or as it is if there is no such node. -/
def spelling (name : String) : String := ((c.node? name).map FilterNode.name).getD name

/-- A listing shows the nodes, and perhaps other things. -/
def ShownBy (listing : String) : Prop :=
  ∃ items, Listing.Shows listing items ∧
    items.filterMap Listing.Item.child? = c.nodes.map FilterNode.name

/-- A listing shows the load order, and perhaps other things. -/
def OrderShownBy (listing : String) : Prop :=
  ∃ items, Listing.Shows listing items ∧
    items.filterMap (Listing.Item.value? "FilterLoadOrder") = [.text c.loadOrder.toList]

/-- A node was made for a name that had none. What becomes of the other nodes is left open, here and
when a property is set. -/
structure Creates (name : String) (c c' : FilterCollection) : Prop where
  loadOrder : c'.loadOrder = c.loadOrder
  node : ∃ node, c'.node? name = some node ∧ node.name = name

/-- A property of the node of a name was given a value. The node keeps its spelling. -/
structure Sets (name property : String) (value : Listing.Value) (c c' : FilterCollection) :
    Prop where
  loadOrder : c'.loadOrder = c.loadOrder
  node : ∀ node, c.node? name = some node → ∃ node', c'.node? name = some node' ∧
    node'.name = node.name ∧ node'.value = Function.update node.value property (some value)

/-- The load order was written. -/
structure SetsOrder (order : String) (c c' : FilterCollection) : Prop where
  loadOrder : c'.loadOrder = order
  node : ∀ name, c'.node? name = c.node? name

end FilterCollection

/-! ### The script -/

/-- Nothing but the host has changed. -/
def World.SameButHost {η : Type} (w w' : World η) : Prop := w' = { w with host := w'.host }

namespace World.SameButHost

variable {η : Type} {w w₁ w' : World η}

theorem refl (w : World η) : w.SameButHost w := rfl

theorem trans (h : w.SameButHost w₁) (h' : w₁.SameButHost w') : w.SameButHost w' :=
  Eq.trans h' (congrArg (fun v : World η ↦ { v with host := w'.host }) h)

theorem disk (h : w.SameButHost w') : w'.disk = w.disk := by
  rw [SameButHost] at h
  rw [h]

end World.SameButHost

namespace AdminScript

variable {η : Type} (s : AdminScript η) (content : η → FilterCollection)
  (journal : η → List (List String))

/-- What a value is set with. -/
def argument : Listing.Value → String
  | .text cs => String.ofList cs
  | .flag b => if b then "TRUE" else "FALSE"
  | .number n => n.repr

/-- The values that a property of a filter can be given. -/
inductive IsSetting : String → Listing.Value → Prop
  | enabled (b : Bool) : IsSetting "FilterEnabled" (.flag b)
  | state (n : Nat) : IsSetting "FilterState" (.number n)
  | path (cs : List Char) : IsSetting "FilterPath" (.text cs)
  | description (cs : List Char) : IsSetting "FilterDescription" (.text cs)

/-- A run that only asks. -/
def IsQuestion (arguments : List String) : Prop :=
  arguments.head? = some "ENUM" ∨ arguments.head? = some "GET"

/-- A run of the script with arguments. -/
def started (arguments : List String) : StateM (World η) (Except IoKind ProgramRun) :=
  s.start (["//nologo", s.path] ++ arguments)

/-- A run reports that it is done. -/
def Does (arguments : List String) (w : World η) (output : List UInt8) (w' : World η) : Prop :=
  ∃ errors, s.started arguments w = (.ok ⟨0, output, errors⟩, w')

/-- A question is answered with a listing, and the collection stays as it is. -/
def Tells (arguments : List String) (w : World η) (shown : String → Prop) : Prop :=
  ∃ listing w', s.Does arguments w (Text.bytesOf listing) w' ∧
    content w'.host = content w.host ∧ shown listing

/-- **The script gives access to a collection,** and its runs are noted in a journal. Questions are
answered; a change may fail, and then anything may be left of it. -/
structure Serves : Prop where
  path : '\x00' ∉ s.path.toList
  elsewhere : ∀ arguments (w : World η), w.SameButHost (s.started arguments w).2
  noted : ∀ arguments (w : World η),
    journal (s.started arguments w).2.host = journal w.host ++ [arguments]
  tellsNodes : ∀ w : World η, s.Tells content ["ENUM", filtersNode] w (content w.host).ShownBy
  tellsNode : ∀ w : World η, ∀ node ∈ (content w.host).nodes,
    s.Tells content ["ENUM", below filtersNode node.name] w node.ShownBy
  tellsOrder : ∀ w : World η,
    s.Tells content ["GET", loadOrderProperty] w (content w.host).OrderShownBy
  creates : ∀ {w output w' name}, Listing.IsNodeName name.toList →
    (content w.host).node? name = none →
    s.Does ["CREATE", below filtersNode name, "IIsFilter"] w output w' →
    FilterCollection.Creates name (content w.host) (content w'.host)
  sets : ∀ {w output w' name property value}, Listing.IsNodeName name.toList →
    ((content w.host).node? name).isSome → IsSetting property value → '\n' ∉ value.shown →
    s.Does ["SET", below (below filtersNode name) property, argument value] w output w' →
    FilterCollection.Sets name property value (content w.host) (content w'.host)
  setsOrder : ∀ {w output w' order}, '\n' ∉ order.toList →
    s.Does ["SET", loadOrderProperty, order] w output w' →
    FilterCollection.SetsOrder order (content w.host) (content w'.host)

/-- Questions were asked and nothing else was done. -/
structure Asks (w w' : World η) : Prop where
  elsewhere : w.SameButHost w'
  content : content w'.host = content w.host
  journal : ∃ runs, journal w'.host = journal w.host ++ runs ∧ ∀ run ∈ runs, IsQuestion run

end AdminScript

/-! ### Values that are read -/

namespace Listing

/-- A flag that is read means what it says. -/
theorem isTrue_read (b : Bool) : isTrue (String.ofList (Value.flag b).read) = b := by
  cases b <;> decide +kernel

/-- A number of 32 bits is read back. -/
theorem ofNat_read (n : UInt32) : UInt32.ofNat
    ((Text.boundedUnsigned? 0xFFFFFFFF (Value.number n.toNat).read).getD 0) = n := by
  rw [Value.read, Text.boundedUnsigned?_repr (Nat.le_of_lt_succ n.toNat_lt), Option.getD_some,
    UInt32.ofNat_toNat]

end Listing

/-! ### Entries as nodes show them -/

namespace FilterNode

variable {node : FilterNode} {listing : String}

/-- A value that a listing shows once is the first that it shows. -/
theorem findSome?_of_filterMap {α β : Type} {f : α → Option β} {xs : List α} {b : Option β}
    (h : xs.filterMap f = b.toList) : xs.findSome? f = b := by
  rw [← List.head?_filterMap, h]
  rcases b with - | b
  · rfl
  · rfl

theorem isPropertyName {property : String} (h : property ∈ properties) :
    Listing.IsPropertyName property.toList := by
  have hall : ∀ property ∈ properties, property.toList ≠ [] ∧
      property.toList.all Char.isAlphanum = true := by decide +kernel
  exact Listing.isPropertyName_of_all (hall property h).1 (hall property h).2

/-- **The entry of a node is read from a listing of it.** -/
theorem entryOf_of_shownBy (h : node.ShownBy listing) :
    AdminScript.entryOf node.name listing = node.entry := by
  obtain ⟨items, hshows, hitems⟩ := h
  have hread : ∀ property ∈ properties, Listing.property? listing property = node.text? property :=
    fun property hproperty ↦ by
      rw [Listing.property?_of_shows hshows (isPropertyName hproperty),
        findSome?_of_filterMap (hitems property hproperty), text?]
  rw [AdminScript.entryOf, entry, hread "FilterEnabled" (by decide),
    hread "FilterState" (by decide), hread "FilterPath" (by decide),
    hread "FilterDescription" (by decide)]

/-- The values of an entry's properties. -/
theorem entry_of_values {e : StoredFilter}
    (henabled : node.value "FilterEnabled" = some (.flag e.enabled))
    (hstate : node.value "FilterState" = some (.number e.state.toNat))
    (hpath : node.value "FilterPath" = some (.text e.path.toList))
    (hdescription : node.value "FilterDescription" = some (.text e.description.toList)) :
    node.entry = { e with name := node.name } := by
  have hback (t : String) : String.ofList (Listing.Value.text t.toList).read = t :=
    String.ofList_toList
  rw [entry, text?, text?, text?, text?, henabled, hstate, hpath, hdescription]
  simp only [Option.map_some, Option.any_some, Option.bind_some, Option.getD_some,
    Listing.isTrue_read, hback, String.toList_ofList, Listing.ofNat_read]

end FilterNode

namespace FilterCollection

variable {c : FilterCollection} {name : String}

/-- A name is among those of the nodes exactly if it has a node. -/
theorem any_names (c : FilterCollection) (name : String) :
    (c.nodes.map FilterNode.name).any (Text.equalIgnoringCase · name) = (c.node? name).isSome := by
  rw [node?, List.isSome_find?, List.any_map]
  rfl

/-- No other node has the name of a node in another letter case. -/
theorem eq_of_equalIgnoringCase {node other : FilterNode} (hnode : node ∈ c.nodes)
    (hother : other ∈ c.nodes) (hname : Text.equalIgnoringCase node.name name = true)
    (hname' : Text.equalIgnoringCase other.name name = true) : node = other :=
  List.inj_on_of_nodup_map c.distinct hnode hother
    ((Text.sameIgnoringCase_iff.1 hname).trans (Text.sameIgnoringCase_iff.1 hname').symm)

end FilterCollection

/-! ### Runs of the script -/

namespace AdminScript

variable {η : Type} {s : AdminScript η} {content : η → FilterCollection}
  {journal : η → List (List String)} {w w₁ w' : World η} {arguments : List String}
  {output : List UInt8} {shown : String → Prop}

/-- The script is not started with a NUL in an argument. -/
theorem launch_eq (s : AdminScript η) (line : List String) (w : World η) : s.launch line w =
    if line.any (·.toList.contains '\x00') then (.error .invalidInput, w) else s.start line w := by
  rw [launch]
  split
  · rfl
  · rfl

/-- A run that was launched gives its output, or fails with what it has said if its code is not
zero. -/
theorem run_of_ok {run : ProgramRun}
    (h : s.launch (["//nologo", s.path] ++ arguments) w = (.ok run, w')) :
    s.run arguments w = if run.code = 0 then (.ok (Text.ofBytesLossy run.output), w')
      else (.error (.said (failure arguments run)), w') := by
  rw [AdminScript.run, StateExcept.lift_bind_eq, h]
  dsimp only
  split
  · rfl
  · rfl

theorem run_of_error {kind : IoKind}
    (h : s.launch (["//nologo", s.path] ++ arguments) w = (.error kind, w')) :
    s.run arguments w =
      (.error ((Fault.io kind).whileDoing "执行 cscript adsutil.vbs 失败"), w') := by
  rw [AdminScript.run, StateExcept.lift_bind_eq, h]
  rfl

/-- A run that succeeds reports that it is done. -/
theorem does_of_run {text : String} (h : s.run arguments w = (.ok text, w')) :
    ∃ output, s.Does arguments w output w' := by
  rcases hlaunch : s.launch (["//nologo", s.path] ++ arguments) w with ⟨kind | run, w₁⟩
  · rw [run_of_error hlaunch] at h
    cases h
  · rw [run_of_ok hlaunch] at h
    rw [launch_eq] at hlaunch
    split at hlaunch
    · cases hlaunch
    · split at h
      · next hcode =>
        cases h
        exact ⟨run.output, run.errors, by rw [started, hlaunch, ← hcode]⟩
      · cases h

/-- A run that does what it is asked to gives its output. -/
theorem run_of_does (hpath : '\x00' ∉ s.path.toList)
    (hnul : ∀ argument ∈ arguments, '\x00' ∉ argument.toList)
    (h : s.Does arguments w output w') :
    s.run arguments w = (.ok (Text.ofBytesLossy output), w') := by
  obtain ⟨errors, hstarted⟩ := h
  have hnone : ¬ (["//nologo", s.path] ++ arguments).any (·.toList.contains '\x00') = true := by
    rw [List.any_eq_true]
    rintro ⟨argument, hmem, hcontains⟩
    rw [List.contains_iff_mem] at hcontains
    rcases List.mem_cons.1 hmem with rfl | hmem
    · exact absurd hcontains (by decide)
    · rcases List.mem_cons.1 hmem with rfl | hmem
      · exact hpath hcontains
      · exact hnul argument hmem hcontains
  rw [run_of_ok ((launch_eq s _ w).trans ((if_neg hnone).trans hstarted)), if_pos rfl]

namespace Asks

theorem refl (w : World η) : Asks content journal w w where
  elsewhere := .refl w
  content := rfl
  journal := ⟨[], (List.append_nil _).symm, nofun⟩

/-- Questions may be asked one after the other. -/
theorem trans (h : Asks content journal w w₁) (h' : Asks content journal w₁ w') :
    Asks content journal w w' where
  elsewhere := h.elsewhere.trans h'.elsewhere
  content := h'.content.trans h.content
  journal := by
    obtain ⟨runs, hruns, hall⟩ := h.journal
    obtain ⟨runs', hruns', hall'⟩ := h'.journal
    refine ⟨runs ++ runs', by rw [hruns', hruns, List.append_assoc], fun run hrun ↦ ?_⟩
    exact (List.mem_append.1 hrun).elim (hall run) (hall' run)

end Asks

theorem toList_below (node name : String) :
    (below node name).toList = node.toList ++ '/' :: name.toList := by
  simp [below]

/-! ### Reading the store -/

section

variable {steady : World η → Prop} {entries : List StoredFilter}

/-- In the worlds of a kind a run of the script writes a listing, and leaves a world of the kind. -/
def Answers (s : AdminScript η) (steady : World η → Prop) (arguments : List String)
    (shown : String → Prop) : Prop :=
  ∀ w, steady w → ∃ listing w', s.run arguments w = (.ok listing, w') ∧ shown listing ∧ steady w'

/-- The filters are read as the answers show them, one question for each. -/
theorem readFilters_of_answers (heach : ∀ e ∈ entries, s.Answers steady
    ["ENUM", below filtersNode e.name] (entryOf e.name · = e)) (hw : steady w) :
    ∃ w', (entries.map StoredFilter.name).mapM s.readFilter w = (.ok entries, w') ∧
      steady w' := by
  induction entries generalizing w with
  | nil => exact ⟨w, rfl, hw⟩
  | cons e entries ih =>
    obtain ⟨hfirst, hothers⟩ := List.forall_mem_cons.1 heach
    obtain ⟨listing, w₁, hrun, hentry, hw₁⟩ := hfirst w hw
    obtain ⟨w', hrest, hw'⟩ := ih hothers hw₁
    have hread : s.readFilter e.name w = (.ok e, w₁) := by
      rw [readFilter, StateExcept.bind_eq, hrun]
      exact congrArg (fun e ↦ (Except.ok e, w₁)) hentry
    refine ⟨w', ?_, hw'⟩
    rw [List.map_cons, List.mapM_cons, StateExcept.bind_eq, hread]
    dsimp only
    rw [StateExcept.bind_eq, hrest]
    rfl

/-- **The store is read** if the names of its entries can be read from the listing of all filters,
and each entry from the listing of its node. -/
theorem filters_of_answers (hnames : s.Answers steady ["ENUM", filtersNode]
      (Listing.children · = entries.map StoredFilter.name))
    (heach : ∀ e ∈ entries, s.Answers steady ["ENUM", below filtersNode e.name]
      (entryOf e.name · = e)) (hw : steady w) :
    ∃ w', s.store.filters w = (.ok entries, w') ∧ steady w' := by
  obtain ⟨listing, w₁, hrun, hchildren, hw₁⟩ := hnames w hw
  obtain ⟨w', hread, hw'⟩ := readFilters_of_answers heach hw₁
  have hnames : s.filterNames w = (.ok (entries.map StoredFilter.name), w₁) := by
    rw [filterNames, StateExcept.bind_eq, hrun]
    exact congrArg (fun names ↦ (Except.ok names, w₁)) hchildren
  refine ⟨w', ?_, hw'⟩
  show (s.filterNames >>= fun names ↦ names.mapM s.readFilter) w = _
  rw [StateExcept.bind_eq, hnames]
  exact hread

end

namespace Serves

variable (h : s.Serves content journal)

include h

/-- A run changes nothing but the host. -/
theorem sameButHost (hdoes : s.Does arguments w output w') : w.SameButHost w' := by
  obtain ⟨errors, hstarted⟩ := hdoes
  have helsewhere := h.elsewhere arguments w
  rwa [hstarted] at helsewhere

/-- A question is answered. -/
theorem run_of_tells (hquestion : IsQuestion arguments)
    (hnul : ∀ argument ∈ arguments, '\x00' ∉ argument.toList)
    (htells : s.Tells content arguments w shown) :
    ∃ listing w', s.run arguments w = (.ok listing, w') ∧ shown listing ∧
      Asks content journal w w' := by
  obtain ⟨listing, w', hdoes, hcontent, hshown⟩ := htells
  have hrun := run_of_does h.path hnul hdoes
  rw [Text.ofBytesLossy_bytesOf] at hrun
  have hnoted := h.noted arguments w
  obtain ⟨errors, hstarted⟩ := id hdoes
  rw [hstarted] at hnoted
  exact ⟨listing, w', hrun, hshown, h.sameButHost hdoes, hcontent, [arguments], hnoted,
    fun run hmem ↦ List.mem_singleton.1 hmem ▸ hquestion⟩

/-- The names of the nodes are read. -/
theorem filterNames_eq (w : World η) : ∃ w', s.filterNames w =
    (.ok ((content w.host).nodes.map FilterNode.name), w') ∧ Asks content journal w w' := by
  obtain ⟨listing, w', hrun, ⟨items, hshows, hitems⟩, hasks⟩ :=
    h.run_of_tells (.inl rfl) (by decide) (h.tellsNodes w)
  refine ⟨w', ?_, hasks⟩
  rw [filterNames, StateExcept.bind_eq, hrun, ← hitems, ← Listing.children_of_shows hshows]
  rfl

/-- **Reading the store gives the entries of all nodes, and asks questions only.** -/
theorem filters_eq (w : World η) : ∃ w', s.store.filters w =
    (.ok ((content w.host).nodes.map FilterNode.entry), w') ∧ Asks content journal w w' := by
  refine filters_of_answers (fun w₁ hasks ↦ ?_) (fun e he w₁ hasks ↦ ?_) (.refl w)
  · obtain ⟨listing, w₂, hrun, ⟨items, hshows, hitems⟩, hasks'⟩ :=
      h.run_of_tells (.inl rfl) (by decide) (h.tellsNodes w₁)
    have hnames : Listing.children listing =
        ((content w.host).nodes.map FilterNode.entry).map StoredFilter.name := by
      rw [Listing.children_of_shows hshows, hitems, hasks.content, List.map_map]
      rfl
    exact ⟨listing, w₂, hrun, hnames, hasks.trans hasks'⟩
  · obtain ⟨node, hnode, rfl⟩ := List.mem_map.1 he
    have hnul : ∀ argument ∈ ["ENUM", below filtersNode node.name], '\x00' ∉ argument.toList := by
      have hnode : '\x00' ∉ (below filtersNode node.name).toList := by
        rw [toList_below, List.append_cons, List.mem_append, not_or]
        exact ⟨by decide, node.noNul⟩
      simp [hnode]
    obtain ⟨listing, w₂, hrun, hshown, hasks'⟩ :=
      h.run_of_tells (.inl rfl) hnul (h.tellsNode w₁ node (hasks.content.symm ▸ hnode))
    exact ⟨listing, w₂, hrun, FilterNode.entryOf_of_shownBy hshown, hasks.trans hasks'⟩

/-- **The load order is read.** -/
theorem loadOrder_eq (w : World η) : ∃ w', s.store.loadOrder w =
    (.ok (content w.host).loadOrder, w') ∧ Asks content journal w w' := by
  obtain ⟨listing, w', hrun, ⟨items, hshows, hitems⟩, hasks⟩ :=
    h.run_of_tells (.inr rfl) (by decide) (h.tellsOrder w)
  have hname : Listing.IsPropertyName "FilterLoadOrder".toList :=
    Listing.isPropertyName_of_all (by decide) (by decide)
  have hread := Listing.property?_of_shows hshows hname
  rw [FilterNode.findSome?_of_filterMap (b := some _) hitems] at hread
  refine ⟨w', ?_, hasks⟩
  show (s.run ["GET", loadOrderProperty] >>= _ : HostM η String) w = _
  rw [StateExcept.bind_eq, hrun]
  show (Except.ok ((Listing.property? listing "FilterLoadOrder").getD ""), w') = _
  rw [hread, Option.map_some, Option.getD_some, Listing.Value.read, String.ofList_toList]

end Serves

/-! ### Writing the store -/

/-- Properties are written one after the other. -/
theorem setProperties_cons_eq_ok_iff {node name value : String} {rest : List (String × String)} :
    s.setProperties node ((name, value) :: rest) w = (.ok (), w') ↔
      ∃ w₁, s.setProperty (below node name) value w = (.ok (), w₁) ∧
        s.setProperties node rest w₁ = (.ok (), w') := by
  rw [setProperties, StateExcept.bind_eq, StateExcept.tryCatch_eq]
  rcases s.setProperty (below node name) value w with ⟨fault | ⟨⟩, w₁⟩
  · constructor
    · intro h
      cases h
    · rintro ⟨w₂, h, -⟩
      cases h
  · constructor
    · intro h
      exact ⟨w₁, rfl, h⟩
    · rintro ⟨w₂, h, hrest⟩
      cases h
      exact hrest

theorem does_of_setProperty {property value : String}
    (h : s.setProperty property value w = (.ok (), w')) :
    ∃ output, s.Does ["SET", property, value] w output w' := by
  obtain ⟨text, w₁, hrun, hpure⟩ := StateExcept.bind_eq_ok_iff.1 h
  cases hpure
  exact does_of_run hrun

/-- The values of an entry's properties. -/
def settings (e : StoredFilter) : List (String × Listing.Value) :=
  [("FilterEnabled", .flag e.enabled), ("FilterState", .number e.state.toNat),
    ("FilterPath", .text e.path.toList), ("FilterDescription", .text e.description.toList)]

theorem properties_eq (e : StoredFilter) :
    properties e = (settings e).map fun (property, value) ↦ (property, argument value) := by
  simp [properties, settings, argument, String.ofList_toList]

/-- Each value of an entry is one of the property that it is written to. It is shown on one line if
the texts of the entry are. -/
theorem isSetting_of_mem_settings {e : StoredFilter} (hpath : '\n' ∉ e.path.toList)
    (hdescription : '\n' ∉ e.description.toList) :
    ∀ setting ∈ settings e, IsSetting setting.1 setting.2 ∧ '\n' ∉ setting.2.shown := by
  intro setting hsetting
  simp only [settings, List.mem_cons, List.not_mem_nil, or_false] at hsetting
  rcases hsetting with rfl | rfl | rfl | rfl
  · refine ⟨.enabled _, ?_⟩
    cases e.enabled <;> decide
  · exact ⟨.state _, fun hmem ↦ absurd (Text.isDigit_of_mem_repr _ hmem) (by decide)⟩
  · exact ⟨.path _, by simpa [Listing.Value.shown] using hpath⟩
  · exact ⟨.description _, by simpa [Listing.Value.shown] using hdescription⟩

/-- What values become of a node's by settings. -/
def valuesAfter (settings : List (String × Listing.Value)) (value : String → Option Listing.Value) :
    String → Option Listing.Value :=
  settings.foldl (fun values setting ↦ Function.update values setting.1 (some setting.2)) value

namespace Serves

variable (h : s.Serves content journal)

include h

/-- Settings that are written give their values to the node, which keeps its spelling. -/
theorem setProperties {settings : List (String × Listing.Value)} {name : String}
    {node : FilterNode} (hname : Listing.IsNodeName name.toList)
    (hnode : (content w.host).node? name = some node)
    (hsettings : ∀ setting ∈ settings, IsSetting setting.1 setting.2 ∧ '\n' ∉ setting.2.shown)
    (hset : s.setProperties (below filtersNode name)
      (settings.map fun (property, value) ↦ (property, argument value)) w = (.ok (), w')) :
    w.SameButHost w' ∧ (content w'.host).loadOrder = (content w.host).loadOrder ∧
      ∃ node', (content w'.host).node? name = some node' ∧ node'.name = node.name ∧
        node'.value = valuesAfter settings node.value := by
  induction settings generalizing w node with
  | nil =>
    cases hset
    exact ⟨.refl _, rfl, node, hnode, rfl, rfl⟩
  | cons setting settings ih =>
    obtain ⟨w₁, hfirst, hrest⟩ := setProperties_cons_eq_ok_iff.1 hset
    obtain ⟨output, hdoes⟩ := does_of_setProperty hfirst
    obtain ⟨hsetting, hline⟩ := hsettings setting List.mem_cons_self
    have hsets := h.sets hname (hnode ▸ rfl) hsetting hline hdoes
    obtain ⟨node₁, hnode₁, hname₁, hvalue₁⟩ := hsets.node node hnode
    obtain ⟨helsewhere, horder, node', hnode', hname', hvalue'⟩ := ih hnode₁
      (fun other hother ↦ hsettings other (List.mem_cons_of_mem _ hother)) hrest
    refine ⟨(h.sameButHost hdoes).trans helsewhere, horder.trans hsets.loadOrder, node', hnode',
      hname'.trans hname₁, ?_⟩
    rw [hvalue', hvalue₁]
    rfl

/-- The values of an entry that are written to its node are all that the node then has of an
entry. -/
theorem setProperties_entry {e : StoredFilter} {node : FilterNode}
    (hname : Listing.IsNodeName e.name.toList) (hpath : '\n' ∉ e.path.toList)
    (hdescription : '\n' ∉ e.description.toList) (hnode : (content w.host).node? e.name = some node)
    (hset : s.setProperties (below filtersNode e.name) (properties e) w = (.ok (), w')) :
    w.SameButHost w' ∧ (content w'.host).loadOrder = (content w.host).loadOrder ∧
      ((content w'.host).node? e.name).map FilterNode.entry =
        some { e with name := node.name } := by
  rw [properties_eq] at hset
  obtain ⟨helsewhere, horder, node', hnode', hname', hvalue⟩ :=
    h.setProperties hname hnode (isSetting_of_mem_settings hpath hdescription) hset
  refine ⟨helsewhere, horder, ?_⟩
  rw [hnode', Option.map_some, ← hname', FilterNode.entry_of_values]
  all_goals
    rw [hvalue]
    rfl

/-- **An entry that was put is there, in the spelling of its node.** A node that is there already
keeps its spelling; one that is made has the spelling of the entry. -/
theorem put {e : StoredFilter} (hname : Listing.IsNodeName e.name.toList)
    (hpath : '\n' ∉ e.path.toList) (hdescription : '\n' ∉ e.description.toList)
    (hput : s.put e w = (.ok (), w')) :
    w.SameButHost w' ∧ (content w'.host).loadOrder = (content w.host).loadOrder ∧
      ((content w'.host).node? e.name).map FilterNode.entry =
        some { e with name := (content w.host).spelling e.name } := by
  obtain ⟨w₁, hnames, hasks⟩ := h.filterNames_eq w
  rw [AdminScript.put, StateExcept.bind_eq, hnames] at hput
  dsimp only at hput
  rw [FilterCollection.any_names] at hput
  -- The node is created if there is none of its name; then its properties are set.
  rcases hfound : (content w.host).node? e.name with - | node
  · rw [hfound, if_pos (by rfl)] at hput
    obtain ⟨text, w₂, hcreate, hset⟩ := StateExcept.bind_eq_ok_iff.1 hput
    obtain ⟨output, hdoes⟩ := does_of_run hcreate
    have hcreates := h.creates hname (hasks.content.symm ▸ hfound) hdoes
    obtain ⟨node, hnode, hspelled⟩ := hcreates.node
    obtain ⟨helsewhere, horder, hentry⟩ :=
      h.setProperties_entry hname hpath hdescription hnode hset
    refine ⟨(hasks.elsewhere.trans (h.sameButHost hdoes)).trans helsewhere,
      horder.trans (hcreates.loadOrder.trans (congrArg _ hasks.content)), ?_⟩
    rw [hentry, hspelled, FilterCollection.spelling, hfound]
    rfl
  · rw [hfound, if_neg (by simp)] at hput
    obtain ⟨helsewhere, horder, hentry⟩ :=
      h.setProperties_entry hname hpath hdescription (hasks.content.symm ▸ hfound) hput
    refine ⟨hasks.elsewhere.trans helsewhere, horder.trans (congrArg _ hasks.content), ?_⟩
    rw [hentry, FilterCollection.spelling, hfound]
    rfl

end Serves

end AdminScript

end ServerSetup
