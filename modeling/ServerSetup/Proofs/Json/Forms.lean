import ServerSetup.Proofs.Json.Reader

/-!
# The ways to write a value

JSON leaves open how a value is written: which spaces stand around it, how the characters of a
string are spelled, in which order the members of an object stand, and which further members there
are. A *form* of a value is any of these ways, and `Reads` says of a reader that it gets the value
from each of its forms. For records this comes down to `WritesRecord.read`: a field is found in
whatever place it stands, and what stands beside it does not matter.

The forms are described without the reader. `ValueText` is the grammar of any value, to any depth;
strings follow `WritesString`, and a record is an object whose members give the fields, among
others, in any order (`WritesRecord`). A field that has no value has no member. Further members may
have any value of the grammar, but no name of a field, and no field stands twice; both would be
refused by the reader.

So a claim about a reader of configurations is one application of `WritesRecord.read`, with a
`Reads` for each of its fields, and nested records are fields themselves.
-/

namespace ServerSetup.Json

variable {bytes : Source}

/-! ### Any value -/

/-- The bytes of a string as the grammar has it. -/
def StringText (bytes : Source) : Prop := ∃ inner, InnerText inner ∧ bytes = quoted inner

theorem StringText.isKey (h : StringText bytes) : IsKey bytes := by
  obtain ⟨inner, hinner, rfl⟩ := h
  exact ⟨inner, hinner.inString, rfl⟩

/-- The bytes of any value, which may be nested to any depth. -/
inductive ValueText : Source → Prop
  | null : ValueText (Text.bytesOf "null")
  | true : ValueText (Text.bytesOf "true")
  | false : ValueText (Text.bytesOf "false")
  | number {bytes : Source} (h : NumberText bytes) : ValueText bytes
  | string {bytes : Source} (h : StringText bytes) : ValueText bytes
  | array {items : List Source} {bytes : Source} (h : IsArray items bytes)
      (hitems : ∀ item ∈ items, ValueText item) : ValueText bytes
  | object {members : List (Source × Source)} {bytes : Source} (h : IsObject members bytes)
      (hkeys : ∀ m ∈ members, StringText m.1) (hvalues : ∀ m ∈ members, ValueText m.2) :
      ValueText bytes

theorem bytesOf_null : Text.bytesOf "null" = [0x6E, 0x75, 0x6C, 0x6C] := by decide +kernel

theorem bytesOf_true : Text.bytesOf "true" = [0x74, 0x72, 0x75, 0x65] := by decide +kernel

theorem bytesOf_false : Text.bytesOf "false" = [0x66, 0x61, 0x6C, 0x73, 0x65] := by decide +kernel

/-- **The scanner finds the end of any value.** -/
theorem ValueText.isValue (h : ValueText bytes) : IsValue bytes := by
  induction h with
  | null => exact bytesOf_null ▸ isValue_null
  | true => exact bytesOf_true ▸ isValue_true
  | false => exact bytesOf_false ▸ isValue_false
  | number h => exact h.isValue
  | string h => exact h.isKey.isValue
  | array h _ ih => exact h.isValue ih
  | object h hkeys _ ih => exact h.isValue fun m hm ↦ ⟨(hkeys m hm).isKey, ih m hm⟩

/-! ### Values of a kind -/

/-- A reader gets what a value stands for from each of its forms. -/
def Reads {α β : Type} (writes : α → Source → Prop) (read? : Source → Option β) (value : α → β) :
    Prop :=
  ∀ ⦃x bytes⦄, writes x bytes → IsValue bytes ∧ read? bytes = some (value x)

/-- The form of a truth value. -/
def WritesBool (b : Bool) (bytes : Source) : Prop :=
  bytes = Text.bytesOf (if b then "true" else "false")

/-- The form of a whole number. -/
def WritesNat (n : Nat) (bytes : Source) : Prop := bytes = Text.bytesOf n.repr

/-- The forms of a value that may be missing. -/
def WritesNullable {α : Type} (writes : α → Source → Prop) : Option α → Source → Prop
  | none, bytes => bytes = Text.bytesOf "null"
  | some x, bytes => writes x bytes

/-- The forms of a list. -/
def WritesList {α : Type} (writes : α → Source → Prop) (xs : List α) (bytes : Source) : Prop :=
  ∃ items, IsArray items bytes ∧ List.Forall₂ writes xs items

theorem reads_string : Reads WritesString string? id := by
  intro s bytes h
  obtain ⟨inner, hinner, hbytes⟩ := h.exists_innerText
  exact ⟨hbytes ▸ isValue_quoted hinner.inString, h.unquote?_eq⟩

theorem reads_bool : Reads WritesBool bool? id := by
  rintro (- | -) bytes rfl
  · exact bytesOf_false ▸ ⟨isValue_false, rfl⟩
  · exact bytesOf_true ▸ ⟨isValue_true, rfl⟩

/-- A number of a kind is read back if the bound admits all of that kind. -/
theorem reads_nat {α : Type} {bound : Nat} {toNat : α → Nat} (hbound : ∀ x, toNat x ≤ bound) :
    Reads (fun x ↦ WritesNat (toNat x)) (nat? bound) toNat := by
  rintro x bytes rfl
  exact ⟨isValue_repr (toNat x), nat?_bytesOf_repr (hbound x)⟩

namespace Reads

variable {α β γ : Type} {writes : α → Source → Prop} {read? : Source → Option β} {value : α → β}

theorem map (h : Reads writes read? value) (f : β → γ) :
    Reads writes (fun source ↦ (read? source).map f) fun x ↦ f (value x) := by
  intro x bytes hbytes
  obtain ⟨hvalue, hread⟩ := h hbytes
  exact ⟨hvalue, congrArg (Option.map f) hread⟩

/-- A value that may be missing is read, if the reader does not take the word for nothing for a
value. -/
theorem nullable (h : Reads writes read? value) (hnull : read? (Text.bytesOf "null") = none) :
    Reads (WritesNullable writes) (nullable? read?) (Option.map value) := by
  rintro (- | x) bytes hbytes
  · obtain rfl : bytes = Text.bytesOf "null" := hbytes
    exact bytesOf_null ▸ ⟨isValue_null, rfl⟩
  · obtain ⟨hvalue, hread⟩ := h hbytes
    have hnotNull : isNull bytes = false := by
      rw [isNull, ← bytesOf_null, beq_eq_false_iff_ne]
      rintro rfl
      rw [hnull] at hread
      cases hread
    refine ⟨hvalue, ?_⟩
    rw [nullable?, hnotNull, hread]
    rfl

/-- A list is read from each of its forms, if its elements are. -/
theorem list (h : Reads writes read? value) :
    Reads (WritesList writes) (list? read?) (List.map value) := by
  rintro xs bytes ⟨items, harray, hitems⟩
  have hvalues : ∀ item ∈ items, IsValue item :=
    ((List.forall₂_and_left _ _).1 (hitems.flip.imp fun item x hx ↦ ⟨(h hx).1, hx⟩)).1
  have hread : List.Forall₂ (fun item y ↦ read? item = some y) items (xs.map value) := by
    rw [List.forall₂_map_right_iff]
    exact hitems.flip.imp fun item x hx ↦ (h hx).2
  refine ⟨harray.isValue hvalues, ?_⟩
  rw [list?, harray.items?_eq hvalues, Option.bind_some, mapM_eq_some hread]

end Reads

/-- The forms of a string that may be missing. -/
abbrev WritesOptionalString : Option String → Source → Prop := WritesNullable WritesString

/-- A string that may be missing is read from each of its forms. -/
theorem reads_optionalString : Reads WritesOptionalString (nullable? string?) id := by
  have h := reads_string.nullable (by rw [bytesOf_null]; rfl)
  rwa [Option.map_id] at h

/-! ### Records -/

/-- A field of a record: its name, and the forms of its value if it has one. -/
structure Field where
  name : String
  forms : Option (Source → Prop)

namespace Field

/-- A field that has a value or not. -/
def of {α : Type} (name : String) (writes : α → Source → Prop) (x : Option α) : Field :=
  ⟨name, x.map writes⟩

/-- Each form of the field is one value. -/
def Readable (f : Field) : Prop := ∀ form ∈ f.forms, ∀ bytes, form bytes → IsValue bytes

/-- What is found for a field: a form if it has a value, and nothing if it has none. -/
def Found (f : Field) (found : Option Source) : Prop :=
  Option.Rel (fun form bytes ↦ form bytes) f.forms found

end Field

/-- The members that give the fields with a value, one for each. -/
inductive Gives : List Field → List (String × Source) → Prop
  | nil : Gives [] []
  | without {name : String} {fields : List Field} {members : List (String × Source)}
      (h : Gives fields members) : Gives (⟨name, none⟩ :: fields) members
  | cons {name : String} {form : Source → Prop} {bytes : Source} {fields : List Field}
      {members : List (String × Source)} (hform : form bytes) (h : Gives fields members) :
      Gives (⟨name, some form⟩ :: fields) ((name, bytes) :: members)

/-- The forms of a record: an object with the fields that have a value and any further members, in
any order, and with any spelling of the names. -/
inductive WritesRecord (fields : List Field) : Source → Prop
  | object {given further members : List (String × Source)} {written : List (Source × Source)}
      {bytes : Source} (hgiven : Gives fields given)
      (hfurther : ∀ m ∈ further, m.1 ∉ fields.map Field.name ∧ ValueText m.2)
      (horder : members.Perm (given ++ further))
      (hwritten : List.Forall₂ (fun m w ↦ WritesString m.1 w.1 ∧ w.2 = m.2) members written)
      (h : IsObject written bytes) : WritesRecord fields bytes

section records

variable {fields : List Field} {members members' given further : List (String × Source)}
  {name : String}

/-- The order of the members does not matter to a field. -/
theorem field?_perm (h : members.Perm members') (name : String) :
    field? members name = field? members' name := by
  have hfilter := h.filter (·.1 == name)
  rw [field?, field?]
  generalize members.filter (·.1 == name) = found at hfilter
  generalize members'.filter (·.1 == name) = found' at hfilter
  rcases found with - | ⟨m, - | ⟨m', rest⟩⟩
  · rw [hfilter.nil_eq]
  · rw [List.perm_singleton.1 hfilter.symm]
  · rcases found' with - | ⟨n, - | ⟨n', rest'⟩⟩
    · cases hfilter.length_eq
    · cases hfilter.length_eq
    · rfl

/-- The members that give the fields have their names. -/
theorem Gives.name_mem (h : Gives fields given) :
    ∀ m ∈ given, m.1 ∈ fields.map Field.name := by
  induction h with
  | nil => exact List.forall_mem_nil _
  | without _ ih => exact fun m hm ↦ List.mem_cons_of_mem _ (ih m hm)
  | cons _ _ ih =>
    exact List.forall_mem_cons.2 ⟨List.mem_cons_self, fun m hm ↦ List.mem_cons_of_mem _ (ih m hm)⟩

/-- What they give is one value each. -/
theorem Gives.isValue (h : Gives fields given) (hforms : ∀ f ∈ fields, f.Readable) :
    ∀ m ∈ given, IsValue m.2 := by
  induction h with
  | nil => exact List.forall_mem_nil _
  | without _ ih => exact ih (List.forall_mem_cons.1 hforms).2
  | cons hform _ ih =>
    obtain ⟨hfirst, hrest⟩ := List.forall_mem_cons.1 hforms
    exact List.forall_mem_cons.2 ⟨hfirst _ rfl _ hform, ih hrest⟩

/-- A name that is neither a field nor a further member is not among the members. -/
theorem Gives.name_notMem (h : Gives fields given) (hname : name ∉ fields.map Field.name)
    (hfurther : ∀ m ∈ further, m.1 ≠ name) : name ∉ (given ++ further).map Prod.fst := by
  intro hmem
  obtain ⟨m, hm, rfl⟩ := List.mem_map.1 hmem
  rcases List.mem_append.1 hm with hm | hm
  · exact hname (h.name_mem m hm)
  · exact hfurther m hm rfl

/-- Each field is found among the members, or it is found that it has no value. -/
theorem Gives.exists_found (h : Gives fields given) (hnodup : (fields.map Field.name).Nodup)
    (hfurther : ∀ m ∈ further, m.1 ∉ fields.map Field.name) :
    ∀ f ∈ fields, ∃ found, field? (given ++ further) f.name = some found ∧ f.Found found := by
  induction h with
  | nil => exact List.forall_mem_nil _
  | @without name fields given h ih =>
    rw [List.map_cons, List.nodup_cons] at hnodup
    have hrest := ih hnodup.2 fun m hm hmem ↦ hfurther m hm (List.mem_cons_of_mem _ hmem)
    have hname : name ∉ (given ++ further).map Prod.fst := h.name_notMem hnodup.1
      fun m hm heq ↦ hfurther m hm (heq ▸ List.mem_cons_self)
    exact List.forall_mem_cons.2 ⟨⟨none, field?_of_not_mem hname, .none⟩, hrest⟩
  | @cons name form bytes fields given hform h ih =>
    rw [List.map_cons, List.nodup_cons] at hnodup
    have hrest := ih hnodup.2 fun m hm hmem ↦ hfurther m hm (List.mem_cons_of_mem _ hmem)
    have hname : name ∉ (given ++ further).map Prod.fst := h.name_notMem hnodup.1
      fun m hm heq ↦ hfurther m hm (heq ▸ List.mem_cons_self)
    refine List.forall_mem_cons.2 ⟨⟨some bytes, field?_cons_self hname, .some hform⟩,
      fun f hf ↦ ?_⟩
    obtain ⟨found, hfield, hfound⟩ := hrest f hf
    have hne : name ≠ f.name := by
      rintro rfl
      exact hnodup.1 (List.mem_map.2 ⟨f, hf, rfl⟩)
    exact ⟨found, (field?_cons_of_ne hne).trans hfield, hfound⟩

theorem exists_forall₂_of_forall_mem {α β : Type} {r : α → β → Prop} {xs : List α}
    (h : ∀ x ∈ xs, ∃ y, r x y) : ∃ ys, List.Forall₂ r xs ys := by
  induction xs with
  | nil => exact ⟨[], .nil⟩
  | cons x xs ih =>
    obtain ⟨⟨y, hy⟩, hrest⟩ := List.forall_mem_cons.1 h
    obtain ⟨ys, hys⟩ := ih hrest
    exact ⟨y :: ys, .cons hy hys⟩

/-- **What a record gives for its fields** does not depend on which of its forms is read. -/
theorem WritesRecord.read (h : WritesRecord fields bytes) (names : List String)
    (hnames : fields.map Field.name = names) (hnodup : names.Nodup)
    (hforms : ∀ f ∈ fields, f.Readable) : IsValue bytes ∧ ∃ found,
      record? names bytes = some found ∧ List.Forall₂ Field.Found fields found := by
  subst hnames
  obtain @⟨given, further, members, written, bytes, hgiven, hfurther, horder, hwritten, hobject⟩ :=
    h
  have hvalues : ∀ m ∈ members, IsValue m.2 := by
    intro m hm
    rcases List.mem_append.1 (horder.mem_iff.1 hm) with hm | hm
    · exact hgiven.isValue hforms m hm
    · exact (hfurther m hm).2.isValue
  have hmembers : ∀ w ∈ written, IsKey w.1 ∧ IsValue w.2 := by
    have hall := (List.forall₂_and_left _ _).2 ⟨hvalues, hwritten⟩
    refine ((List.forall₂_and_left _ _).1 (hall.flip.imp fun w m h ↦ ⟨?_, h⟩)).1
    obtain ⟨hvalue, hname, heq⟩ := h
    obtain ⟨inner, hinner, hkey⟩ := hname.exists_innerText
    exact ⟨⟨inner, hinner.inString, hkey⟩, heq ▸ hvalue⟩
  -- What is read is the members in the order in which they were written.
  have hnames : written.map (fun w ↦ unquote? w.1) = (members.map Prod.fst).map some := by
    rw [List.map_map, ← List.forall₂_eq_eq_eq, List.forall₂_map_left_iff,
      List.forall₂_map_right_iff]
    exact hwritten.flip.imp fun w m h ↦ h.1.unquote?_eq
  have hsecond : written.map Prod.snd = members.map Prod.snd := by
    rw [← List.forall₂_eq_eq_eq, List.forall₂_map_left_iff, List.forall₂_map_right_iff]
    exact hwritten.flip.imp fun w m h ↦ h.2
  have hread : members? bytes = some members := by
    rw [hobject.members?_eq hmembers hnames, hsecond, List.zip_map', List.map_id']
  have hnoArray : items? bytes = none := by
    cases hobject <;> rfl
  -- A field is found by its name, for which the order does not matter.
  have hfound : ∀ f ∈ fields, ∃ found, field? members f.name = some found ∧ f.Found found := by
    intro f hf
    rw [field?_perm horder]
    exact hgiven.exists_found hnodup (fun m hm ↦ (hfurther m hm).1) f hf
  obtain ⟨found, hfields⟩ := exists_forall₂_of_forall_mem hfound
  refine ⟨hobject.isValue hmembers, found, ?_, hfields.imp fun _ _ h ↦ h.2⟩
  rw [record?, hnoArray]
  show (members? bytes).bind _ = _
  rw [hread, Option.bind_some, mapM_eq_some]
  rw [List.forall₂_map_left_iff]
  exact hfields.imp fun _ _ h ↦ h.1

end records

namespace Reads

variable {α β : Type} {writes : α → Source → Prop} {read? : Source → Option β} {value : α → β}
  {name : String} {x : Option α}

/-- A field is readable if its values are read from each of their forms. -/
theorem readable (h : Reads writes read? value) (name : String) (x : Option α) :
    (Field.of name writes x).Readable := by
  intro form hform bytes hbytes
  obtain ⟨x, rfl, rfl⟩ := Option.map_eq_some_iff.1 hform
  exact (h hbytes).1

/-- A field takes the value that it has, and the default if it has none. -/
theorem given_eq (h : Reads writes read? value) {found : Option Source}
    (hfound : (Field.of name writes x).Found found) (default : β) :
    given read? default found = some ((x.map value).getD default) := by
  rcases x with - | x
  · cases hfound
    rfl
  · cases hfound with
    | some hbytes => exact (h hbytes).2

end Reads

end ServerSetup.Json
