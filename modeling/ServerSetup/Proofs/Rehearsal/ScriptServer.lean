import ServerSetup.Proofs.Filter.Scripted
import ServerSetup.Proofs.Rehearsal.Filters
import ServerSetup.Proofs.Text.Split

/-!
# A server to rehearse the administration script on

A server that keeps a collection of filters and answers the script's questions and changes, and
notes each run. It does what is relied on of the script (`ScriptServer.serves`).

The laws of the script leave much open: what is printed besides the properties, what a failed change
leaves behind, how a listing is padded. The server takes the simplest choice each time. It prints
one line for each property that is set and for each node, without padding; a change that it cannot
make, such as one below a node that is not there, changes nothing. It reads its own arguments back
as it was given them, paths by their parts between slashes and values by the type of the property.

The work is to show that this is one of the servers that the laws describe. It shows that they can
be satisfied, and the examples of registrations through the script run on it.
-/

namespace ServerSetup

/-! ### Listings that a server writes -/

namespace Listing

variable {item : Item} {items : List Item}

/-- The word for the type of a value. -/
def Value.typeName : Value → String
  | .text _ => "STRING"
  | .flag _ => "BOOLEAN"
  | .number _ => "INTEGER"

/-- The line of an item. -/
def lineOf : Item → List Char
  | .property name value => name.toList ++ [' '] ++ ':' ::
    ([' '] ++ '(' :: value.typeName.toList ++ ')' :: ([' '] ++ value.shown))
  | .child name => '[' :: "/W3SVC/Filters".toList ++ '/' :: name.toList ++ [']']
  | .blank => []

/-- Items as a listing, one in each line. -/
def listingOf (items : List Item) : String :=
  String.ofList ((items.map lineOf).flatMap (· ++ ['\n']))

/-- An item that has a line of its own. -/
inductive IsPlain : Item → Prop
  | property {name : String} {value : Value} (hname : IsPropertyName name.toList)
      (hvalue : '\n' ∉ value.shown) : IsPlain (.property name value)
  | child {name : String} (hname : IsNodeName name.toList) (hline : '\n' ∉ name.toList) :
      IsPlain (.child name)

/-- The name of a type contains no line break and no closing parenthesis. -/
theorem notMem_typeName {c : Char} (hc : c = '\n' ∨ c = ')') (value : Value) :
    c ∉ value.typeName.toList := by
  have hall : ∀ name ∈ ["STRING", "BOOLEAN", "INTEGER"],
      '\n' ∉ name.toList ∧ ')' ∉ name.toList := by decide
  have hname : value.typeName ∈ ["STRING", "BOOLEAN", "INTEGER"] := by
    cases value <;> simp [Value.typeName]
  rcases hc with rfl | rfl
  · exact (hall _ hname).1
  · exact (hall _ hname).2

/-- What is written for an item is a line that shows it. -/
theorem isLine_lineOf (h : IsPlain item) : IsLine item (lineOf item) := by
  have hblank : Padding [' '] := fun c hc ↦ by
    rw [List.mem_singleton.1 hc]
    rfl
  refine ⟨?_, [], lineOf item, [], by simp, padding_nil, padding_nil, ?_⟩
  · cases h with
    | property hname hvalue =>
      rename_i name value
      have hnotMem : '\n' ∉ name.toList := hname.notMem (by decide)
      simp [lineOf, hnotMem, hvalue, notMem_typeName]
    | child hname hline => simp [lineOf, hline]
  · cases h with
    | property hname hvalue =>
      rename_i name value
      exact .property hname hblank hblank (notMem_typeName (.inr rfl) value) hblank
    | child hname hline => exact .child hname

theorem shows_listingOf (h : ∀ item ∈ items, IsPlain item) : Shows (listingOf items) items :=
  ⟨items.map lineOf, String.toList_ofList ..,
    List.forall₂_map_right_iff.2 (List.forall₂_same.2 fun item hitem ↦
      isLine_lineOf (h item hitem))⟩

/-- The properties that have values, as items. -/
def itemsOf (properties : List String) (value : String → Option Value) : List Item :=
  properties.filterMap fun property ↦ (value property).map (.property property)

/-- Among properties with different names each has its own value. -/
theorem filterMap_itemsOf {properties : List String} {value : String → Option Value}
    (hdistinct : (properties.map fun property ↦ property.toList.map Char.toLower).Nodup)
    {property : String} (hproperty : property ∈ properties) :
    (itemsOf properties value).filterMap (Item.value? property) = (value property).toList := by
  have hgives (other : String) : ((value other).map (Item.property other)).bind
      (Item.value? property) =
        if Text.equalIgnoringCase other property then value other else none := by
    rcases value other with - | v
    · exact (ite_self none).symm
    · rfl
  rw [itemsOf, List.filterMap_filterMap]
  simp only [hgives]
  induction properties with
  | nil => cases hproperty
  | cons first rest ih =>
    rw [List.map_cons, List.nodup_cons] at hdistinct
    have hother {other : String} (hmem : other ∈ rest) :
        ¬ Text.equalIgnoringCase first other = true := fun hsame ↦
      hdistinct.1 (Text.sameIgnoringCase_iff.1 hsame ▸ List.mem_map_of_mem hmem)
    -- The property is met once, since the others differ from it in more than case.
    rcases List.mem_cons.1 hproperty with rfl | hmem
    · have hrest : rest.filterMap (fun other ↦
          if Text.equalIgnoringCase other property then value other else none) = [] := by
        refine List.filterMap_eq_nil_iff.2 fun other hmem ↦ if_neg fun hsame ↦ hother hmem ?_
        exact Text.sameIgnoringCase_iff.2 (Text.sameIgnoringCase_iff.1 hsame).symm
      have hself : Text.equalIgnoringCase property property = true :=
        Text.sameIgnoringCase_iff.2 rfl
      rw [List.filterMap_cons, if_pos hself, hrest]
      rcases value property with - | v
      · rfl
      · rfl
    · rw [List.filterMap_cons, if_neg (hother hmem), ih hdistinct.2 hmem]

end Listing

/-! ### Changes of a collection -/

/-- A node with a property set. -/
def FilterNode.withValue (node : FilterNode) (property : String) (value : Listing.Value)
    (hvalue : '\n' ∉ value.shown) : FilterNode where
  name := node.name
  value := Function.update node.value property (some value)
  named := node.named
  noNul := node.noNul
  oneLine := node.oneLine
  oneLineEach other v hv := by
    by_cases hother : other = property
    · subst hother
      rw [Function.update_self] at hv
      cases hv
      exact hvalue
    · rw [Function.update_of_ne hother] at hv
      exact node.oneLineEach other v hv

namespace FilterCollection

variable (c : FilterCollection) {name property order : String} {value : Listing.Value}
  {node : FilterNode}

/-- A collection with one more node. -/
def withNode (node : FilterNode) (hfresh : c.node? node.name = none) : FilterCollection where
  nodes := c.nodes ++ [node]
  loadOrder := c.loadOrder
  distinct := by
    rw [List.map_append, List.map_singleton, List.nodup_append]
    refine ⟨c.distinct, List.pairwise_singleton _ _, ?_⟩
    rintro _ hother _ hname rfl
    obtain ⟨other, hmem, heq⟩ := List.mem_map.1 hother
    refine List.find?_eq_none.1 hfresh other hmem (Text.sameIgnoringCase_iff.2 ?_)
    rw [heq, List.mem_singleton.1 hname]
  oneLine := c.oneLine

/-- A collection with a property of the node of a name set. -/
def withValue (name property : String) (value : Listing.Value) (hvalue : '\n' ∉ value.shown) :
    FilterCollection where
  nodes := c.nodes.map fun node ↦
    if Text.equalIgnoringCase node.name name then node.withValue property value hvalue else node
  loadOrder := c.loadOrder
  distinct := by
    have hkeys : (fun node : FilterNode ↦ node.name.toList.map Char.toLower) ∘ (fun node ↦
        if Text.equalIgnoringCase node.name name then node.withValue property value hvalue
        else node) = fun node ↦ node.name.toList.map Char.toLower := by
      funext node
      dsimp only [Function.comp_apply]
      split
      · rfl
      · rfl
    rw [List.map_map, hkeys]
    exact c.distinct
  oneLine := c.oneLine

/-- A collection with a load order written. -/
def withOrder (order : String) (horder : '\n' ∉ order.toList) : FilterCollection where
  nodes := c.nodes
  loadOrder := order
  distinct := c.distinct
  oneLine := horder

variable {c}

/-- The collection with one more node is the one after creating it. -/
theorem creates_withNode (hname : node.name = name) (hfresh : c.node? node.name = none) :
    Creates name c (c.withNode node hfresh) where
  loadOrder := rfl
  node := by
    subst hname
    refine ⟨node, ?_, rfl⟩
    have hself : Text.equalIgnoringCase node.name node.name = true :=
      Text.sameIgnoringCase_iff.2 rfl
    show (c.nodes ++ [node]).find? _ = _
    rw [List.find?_append, show c.nodes.find? _ = none from hfresh, Option.none_or]
    exact List.find?_cons_of_pos hself

/-- The collection with another value is the one after setting it. -/
theorem sets_withValue (hvalue : '\n' ∉ value.shown) :
    Sets name property value c (c.withValue name property value hvalue) where
  loadOrder := rfl
  node node hnode := by
    refine ⟨node.withValue property value hvalue, ?_, rfl, rfl⟩
    have hname : Text.equalIgnoringCase node.name name = true := by
      simpa using List.find?_some hnode
    have hsame : (fun node : FilterNode ↦ Text.equalIgnoringCase node.name name) ∘ (fun node ↦
        if Text.equalIgnoringCase node.name name then node.withValue property value hvalue
        else node) = fun node ↦ Text.equalIgnoringCase node.name name := by
      funext node
      dsimp only [Function.comp_apply]
      split
      · rfl
      · rfl
    show (c.nodes.map _).find? _ = _
    rw [List.find?_map, hsame, show c.nodes.find? _ = some node from hnode, Option.map_some,
      if_pos hname]

/-- The node of its own name is the node itself. -/
theorem node?_self (hnode : node ∈ c.nodes) : c.node? node.name = some node := by
  have hself : Text.equalIgnoringCase node.name node.name = true :=
    Text.sameIgnoringCase_iff.2 rfl
  rcases hfound : c.node? node.name with - | other
  · exact absurd hself (List.find?_eq_none.1 hfound node hnode)
  · rw [eq_of_equalIgnoringCase (List.mem_of_find?_eq_some hfound) hnode
      (by simpa using List.find?_some hfound) hself]

end FilterCollection

/-! ### Listings of a collection -/

namespace FilterNode

variable (node : FilterNode)

/-- The listing of a node. -/
def listing : String := Listing.listingOf (Listing.itemsOf properties node.value)

/-- A node is shown by its listing. -/
theorem shownBy_listing : node.ShownBy node.listing := by
  refine ⟨_, Listing.shows_listingOf fun item hitem ↦ ?_, fun property hproperty ↦
    Listing.filterMap_itemsOf (by decide +kernel) hproperty⟩
  obtain ⟨property, hproperty, hgiven⟩ := List.mem_filterMap.1 hitem
  obtain ⟨value, hvalue, rfl⟩ := Option.map_eq_some_iff.1 hgiven
  exact .property (isPropertyName hproperty) (node.oneLineEach property value hvalue)

end FilterNode

namespace FilterCollection

variable (c : FilterCollection)

/-- The listing of the nodes. -/
def listing : String := Listing.listingOf (c.nodes.map fun node ↦ .child node.name)

/-- The listing of the load order. -/
def orderListing : String :=
  Listing.listingOf [.property "FilterLoadOrder" (.text c.loadOrder.toList)]

/-- A collection is shown by its listing. -/
theorem shownBy_listing : c.ShownBy c.listing := by
  refine ⟨_, Listing.shows_listingOf fun item hitem ↦ ?_, ?_⟩
  · obtain ⟨node, -, rfl⟩ := List.mem_map.1 hitem
    exact .child node.named node.oneLine
  · rw [List.filterMap_map]
    exact congrFun (List.filterMap_eq_map' (f := FilterNode.name)) c.nodes

/-- The load order is shown by its listing. -/
theorem orderShownBy_orderListing : c.OrderShownBy c.orderListing := by
  refine ⟨_, Listing.shows_listingOf fun item hitem ↦ ?_, rfl⟩
  rw [List.mem_singleton.1 hitem]
  refine .property (Listing.isPropertyName_of_all (by decide) (by decide)) ?_
  simpa [Listing.Value.shown] using c.oneLine

end FilterCollection

/-! ### The server -/

/-- A server with filters, and the runs of the script on it. -/
structure ScriptServer where
  filters : FilterCollection
  runs : List (List String) := []

namespace ScriptServer

open AdminScript

/-- What a path names below the node of all filters, in segments. -/
def place? (path : String) : Option (List String) :=
  let segments := (Text.splitWhere (· == '/') path.toList).map String.ofList
  if segments.take 2 = ["W3SVC", "Filters"] then some (segments.drop 2) else none

/-- The value that a property is given by an argument. -/
def valueOf? (property argument : String) : Option Listing.Value :=
  if property = "FilterEnabled" then
    if argument = "TRUE" then some (.flag true)
    else if argument = "FALSE" then some (.flag false) else none
  else if property = "FilterState" then (Text.digits? argument.toList).map .number
  else if property = "FilterPath" ∨ property = "FilterDescription" then
    some (.text argument.toList)
  else none

/-- Makes a node, if there is none of its name. -/
def create? (c : FilterCollection) (name : String) : Option FilterCollection :=
  if h : (name.toList ≠ [] ∧ '/' ∉ name.toList) ∧ '\x00' ∉ name.toList ∧ '\n' ∉ name.toList ∧
      c.node? name = none then
    some (c.withNode ⟨name, fun _ ↦ none, ⟨h.1.1, h.1.2⟩, h.2.1, h.2.2.1, nofun⟩ h.2.2.2)
  else none

/-- Sets a property of a node. -/
def set? (c : FilterCollection) (name property argument : String) : Option FilterCollection :=
  match valueOf? property argument with
  | none => none
  | some value =>
    if h : '\n' ∉ value.shown then
      if (c.node? name).isSome then some (c.withValue name property value h) else none
    else none

/-- Writes the load order. -/
def setOrder? (c : FilterCollection) (order : String) : Option FilterCollection :=
  if h : '\n' ∉ order.toList then some (c.withOrder order h) else none

/-- What a run of the script says and leaves; none if it fails. -/
def perform? (c : FilterCollection) : List String → Option (String × FilterCollection)
  | ["ENUM", path] =>
    match place? path with
    | some [] => some (c.listing, c)
    | some [name] => (c.node? name).map fun node ↦ (node.listing, c)
    | _ => none
  | ["GET", path] =>
    if place? path = some ["FilterLoadOrder"] then some (c.orderListing, c) else none
  | ["CREATE", path, _] =>
    match place? path with
    | some [name] => (create? c name).map ("", ·)
    | _ => none
  | ["SET", path, argument] =>
    match place? path with
    | some [property] =>
      if property = "FilterLoadOrder" then (setOrder? c argument).map ("", ·) else none
    | some [name, property] => (set? c name property argument).map ("", ·)
    | _ => none
  | _ => none

/-- Runs the script. Each run is noted. -/
def start (line : List String) : StateM (World ScriptServer) (Except IoKind ProgramRun) := fun w ↦
  let runs := w.host.runs ++ [line.drop 2]
  match perform? w.host.filters (line.drop 2) with
  | some (text, filters) => (.ok { output := Text.bytesOf text },
    { w with host := ⟨filters, runs⟩ })
  | none => (.ok { code := 1 }, { w with host := ⟨w.host.filters, runs⟩ })

/-- The script on the server. -/
def script : AdminScript ScriptServer := ⟨"adsutil.vbs", start⟩

variable {w w' : World ScriptServer} {arguments : List String} {output : List UInt8}
  {name property : String} {value : Listing.Value}

/-- A run performs its arguments, or fails with a code and changes nothing. Either way it is
noted. -/
theorem started_eq (arguments : List String) (w : World ScriptServer) :
    script.started arguments w = match perform? w.host.filters arguments with
      | some (text, filters) => (.ok { output := Text.bytesOf text },
        { w with host := ⟨filters, w.host.runs ++ [arguments]⟩ })
      | none => (.ok { code := 1 },
        { w with host := ⟨w.host.filters, w.host.runs ++ [arguments]⟩ }) := rfl

/-- What a run does that is reported as done. -/
theorem does_iff : script.Does arguments w output w' ↔ ∃ text filters,
    perform? w.host.filters arguments = some (text, filters) ∧ output = Text.bytesOf text ∧
      w' = { w with host := ⟨filters, w.host.runs ++ [arguments]⟩ } := by
  rw [Does, started_eq]
  rcases perform? w.host.filters arguments with - | ⟨text, filters⟩
  · constructor
    · rintro ⟨errors, h⟩
      cases h
    · rintro ⟨text, filters, h, -⟩
      cases h
  · constructor
    · rintro ⟨errors, h⟩
      cases h
      exact ⟨text, filters, rfl, rfl, rfl⟩
    · rintro ⟨text', filters', h, rfl, rfl⟩
      cases h
      exact ⟨[], rfl⟩

/-! ### Paths -/

/-- A path is split at its first slash. -/
theorem splitWhere_append_cons {first : List Char} (h : '/' ∉ first) (rest : List Char) :
    Text.splitWhere (· == '/') (first ++ '/' :: rest) =
      first :: Text.splitWhere (· == '/') rest := by
  rw [Text.splitWhere_eq_splitOnP, Text.splitWhere_eq_splitOnP,
    List.splitOnP_append_cons_of_forall_mem (fun c hc ↦ ?_) '/' rfl]
  rw [beq_eq_false_iff_ne]
  rintro rfl
  exact h hc

theorem splitWhere_eq_singleton {cs : List Char} (h : '/' ∉ cs) :
    Text.splitWhere (· == '/') cs = [cs] := by
  rw [Text.splitWhere_eq_splitOnP, List.splitOnP_eq_singleton fun c hc ↦ ?_]
  rw [beq_eq_false_iff_ne]
  rintro rfl
  exact h hc

theorem toList_below_filtersNode (name : String) : (below filtersNode name).toList =
    "W3SVC".toList ++ '/' :: ("Filters".toList ++ '/' :: name.toList) := by
  have hnode : filtersNode.toList = "W3SVC".toList ++ '/' :: "Filters".toList := by decide
  rw [toList_below, hnode, List.append_assoc, List.cons_append]

theorem place?_below (h : '/' ∉ name.toList) : place? (below filtersNode name) = some [name] := by
  rw [place?, toList_below_filtersNode, splitWhere_append_cons (by decide),
    splitWhere_append_cons (by decide), splitWhere_eq_singleton h]
  simp

/-- The path of a property leads to the property of the node. -/
theorem place?_below_below (h : '/' ∉ name.toList) (hproperty : '/' ∉ property.toList) :
    place? (below (below filtersNode name) property) = some [name, property] := by
  rw [place?, toList_below, toList_below_filtersNode, List.append_assoc, List.cons_append,
    List.append_assoc, List.cons_append, splitWhere_append_cons (by decide),
    splitWhere_append_cons (by decide), splitWhere_append_cons h, splitWhere_eq_singleton hproperty]
  simp

/-! ### What is relied on -/

/-- The value of a setting is read off the argument that writes it. -/
theorem valueOf?_argument (h : IsSetting property value) :
    valueOf? property (argument value) = some value := by
  cases h with
  | enabled b => cases b <;> rfl
  | state n =>
    show (Text.digits? n.repr.toList).map Listing.Value.number = _
    rw [Text.digits?_repr, Option.map_some]
  | path cs =>
    show some (Listing.Value.text (String.ofList cs).toList) = _
    rw [String.toList_ofList]
  | description cs =>
    show some (Listing.Value.text (String.ofList cs).toList) = _
    rw [String.toList_ofList]

theorem tells {shown : String → Prop} {text : String}
    (hperform : perform? w.host.filters arguments = some (text, w.host.filters))
    (hshown : shown text) : script.Tells filters arguments w shown :=
  ⟨text, _, does_iff.2 ⟨text, w.host.filters, hperform, rfl, rfl⟩, rfl, hshown⟩

theorem noSlash_of_isSetting (h : IsSetting property value) : '/' ∉ property.toList := by
  cases h <;> decide

/-- A node that is made has the name that was asked for. -/
theorem creates_of_create? {c c' : FilterCollection} (h : create? c name = some c') :
    FilterCollection.Creates name c c' := by
  rw [create?] at h
  split at h
  · cases h
    exact FilterCollection.creates_withNode (by rfl) _
  · cases h

/-- Setting a property through the script sets it in the collection. -/
theorem sets_of_set? {c c' : FilterCollection} (hsetting : IsSetting property value)
    (h : set? c name property (argument value) = some c') :
    FilterCollection.Sets name property value c c' := by
  rw [set?, valueOf?_argument hsetting] at h
  dsimp only at h
  split at h
  · split at h
    · cases h
      exact FilterCollection.sets_withValue _
    · cases h
  · cases h

/-- Setting the load order through the script sets it in the collection. -/
theorem setsOrder_of_setOrder? {c c' : FilterCollection} {order : String}
    (h : setOrder? c order = some c') : FilterCollection.SetsOrder order c c' := by
  rw [setOrder?] at h
  split at h
  · cases h
    exact ⟨rfl, fun _ ↦ rfl⟩
  · cases h

/-- **The script does on the server what is relied on.** -/
theorem serves : script.Serves filters runs where
  path := by decide
  elsewhere arguments w := by
    rw [started_eq]
    rcases perform? w.host.filters arguments with - | ⟨text, filters⟩
    · rfl
    · rfl
  noted arguments w := by
    rw [started_eq]
    rcases perform? w.host.filters arguments with - | ⟨text, filters⟩
    · rfl
    · rfl
  tellsNodes w := by
    refine tells ?_ w.host.filters.shownBy_listing
    have hplace : place? filtersNode = some [] := by decide +kernel
    rw [perform?, hplace]
  tellsNode w node hnode := by
    refine tells ?_ node.shownBy_listing
    rw [perform?, place?_below node.named.noSlash]
    dsimp only
    rw [FilterCollection.node?_self hnode, Option.map_some]
  tellsOrder w := by
    refine tells ?_ w.host.filters.orderShownBy_orderListing
    rw [perform?, loadOrderProperty, place?_below (by decide), if_pos rfl]
  creates {w output w' name} hnamed hfresh hdoes := by
    obtain ⟨text, filters, hperform, -, rfl⟩ := does_iff.1 hdoes
    have hcreate : (create? w.host.filters name).map ("", ·) = some (text, filters) := by
      rw [← hperform, perform?, place?_below hnamed.noSlash]
    obtain ⟨_, hcreate, heq⟩ := Option.map_eq_some_iff.1 hcreate
    cases heq
    exact creates_of_create? hcreate
  sets {w output w' name property value} hnamed hnode hsetting hvalue hdoes := by
    obtain ⟨text, filters, hperform, -, rfl⟩ := does_iff.1 hdoes
    have hset : (set? w.host.filters name property (argument value)).map ("", ·) =
        some (text, filters) := by
      rw [← hperform, perform?, place?_below_below hnamed.noSlash (noSlash_of_isSetting hsetting)]
    obtain ⟨_, hset, heq⟩ := Option.map_eq_some_iff.1 hset
    cases heq
    exact sets_of_set? hsetting hset
  setsOrder {w output w' order} horder hdoes := by
    obtain ⟨text, filters, hperform, -, rfl⟩ := does_iff.1 hdoes
    have hset : (setOrder? w.host.filters order).map ("", ·) = some (text, filters) := by
      rw [← hperform, perform?, loadOrderProperty, place?_below (by decide)]
      exact (if_pos rfl).symm
    obtain ⟨_, hset, heq⟩ := Option.map_eq_some_iff.1 hset
    cases heq
    exact setsOrder_of_setOrder? hset

/-! ### Servers to rehearse on -/

/-- The node of a filter with values. -/
def nodeWith (name : String) (values : List (String × Listing.Value))
    (hname : (name.toList ≠ [] ∧ '/' ∉ name.toList) ∧ '\x00' ∉ name.toList ∧ '\n' ∉ name.toList)
    (hvalues : ∀ entry ∈ values, '\n' ∉ entry.2.shown) : FilterNode where
  name := name
  value property := values.lookup property
  named := ⟨hname.1.1, hname.1.2⟩
  noNul := hname.2.1
  oneLine := hname.2.2
  oneLineEach property v hv := by
    obtain ⟨front, behind, rfl, -⟩ := List.lookup_eq_some_iff.1 hv
    exact hvalues (property, v) (by simp)

/-- A disk with an installation and a directory for scripts, on a server with filters. -/
def world (filters : FilterCollection) : World ScriptServer where
  disk := Rehearsal.serverDisk
  environment := ⟨[]⟩
  host := { filters := filters }

end ScriptServer

end ServerSetup
