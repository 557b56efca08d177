import ServerSetup.Proofs.Filter.Rows

/-!
# Reading listings back

A listing shows a node in lines: its properties with values that are texts, flags or numbers, and
its child nodes. Each line is a row, so what is shown is read back (`children_of_shows`,
`property?_of_shows`), and no value, whatever quotes, colons or brackets are in it, makes a
difference to another line.

Where the module on rows speaks of texts, this one speaks of what they mean. A `Value` is shown with
its type and, if it is a text, in quotes; reading takes one pair of quotes away, so a text with
quotes of its own, or with blank characters at its ends, comes back as it was. An `Item` is a
property with a value, or a child node. Names of properties consist of letters and digits, which is
enough for those of the filters and keeps them apart from everything else in a line.

A listing may have items that are not asked for, and lines that mean nothing. The first item of a
property is the one that is read.
-/

namespace ServerSetup.Listing

open Text

/-! ### The form of a listing -/

/-- The value of a property. -/
inductive Value
  | text (cs : List Char)
  | flag (b : Bool)
  | number (n : Nat)

namespace Value

/-- A value as it is read: without its quotes, if it is a text. -/
def read : Value → List Char
  | text cs => cs
  | flag b => if b then "True".toList else "False".toList
  | number n => n.repr.toList

/-- A value as a listing shows it: a text is in double quotes. -/
def shown : Value → List Char
  | text cs => '"' :: cs ++ ['"']
  | value => value.read

end Value

/-- What a line of a listing shows. -/
inductive Item
  | property (name : String) (value : Value)
  | child (name : String)
  | blank

/-- The names of properties are words of ASCII letters and digits. -/
structure IsPropertyName (name : List Char) : Prop where
  nonempty : name ≠ []
  letters : ∀ c ∈ name, c.isAlphanum = true

/-- What an item looks like, without the blanks around it. -/
inductive Looks : Item → List Char → Prop
  | property {name : String} {value : Value} {before behind between type : List Char}
      (hname : IsPropertyName name.toList) (hbefore : Padding before) (hbehind : Padding behind)
      (htype : ')' ∉ type) (hbetween : Padding between) :
      Looks (.property name value) (name.toList ++ before ++ ':' ::
        (behind ++ '(' :: type ++ ')' :: (between ++ value.shown)))
  | child {name : String} {path : List Char} (hname : IsNodeName name.toList) :
      Looks (.child name) ('[' :: path ++ '/' :: name.toList ++ [']'])
  | blank : Looks .blank []

/-- A line shows an item, perhaps with blanks around it. -/
def IsLine (item : Item) (line : List Char) : Prop :=
  '\n' ∉ line ∧ ∃ front look behind, line = front ++ look ++ behind ∧
    Padding front ∧ Padding behind ∧ Looks item look

/-- A listing shows items, one in each line. -/
def Shows (listing : String) (items : List Item) : Prop :=
  ∃ ls, listing.toList = ls.flatMap (· ++ ['\n']) ∧ List.Forall₂ IsLine items ls

/-- The child node that an item is. -/
def Item.child? : Item → Option String
  | child name => some name
  | _ => none

/-- The value that an item gives a property. -/
def Item.value? (property : String) : Item → Option Value
  | .property name value => if equalIgnoringCase name property then some value else none
  | _ => none

variable {item : Item} {line look name : List Char} {items : List Item}
  {listing property : String}

/-! ### Lines -/

/-- A text of ended lines has these lines. -/
theorem lines_flatMap {ls : List (List Char)} (h : ∀ line ∈ ls, '\n' ∉ line) :
    lines (ls.flatMap (· ++ ['\n'])) = ls.map withoutCarriageReturn := by
  have hpieces : splitWhere (· == '\n') (ls.flatMap (· ++ ['\n'])) = ls ++ [[]] := by
    rw [splitWhere_eq_splitOnP]
    induction ls with
    | nil => rfl
    | cons line ls ih =>
      have hfirst : ∀ c ∈ line, (c == '\n') = false := by
        intro c hc
        rw [beq_eq_false_iff_ne]
        rintro rfl
        exact h line List.mem_cons_self hc
      rw [List.flatMap_cons, List.append_assoc, List.singleton_append,
        List.splitOnP_append_cons_of_forall_mem hfirst '\n' rfl,
        ih fun line hline ↦ h line (List.mem_cons_of_mem _ hline)]
      rfl
  rw [lines, hpieces, List.dropLast_concat, List.getLast?_concat]
  exact List.append_nil _

/-! ### Values -/

namespace Value

/-- A value is shown without blank characters around it. -/
theorem trim_shown (value : Value) : trim value.shown = value.shown := by
  cases value with
  | text cs => exact trim_enclosed (by decide) (by decide) cs
  | flag b => cases b <;> decide
  | number n => exact trim_repr n

/-- A number is shown as a digit and perhaps more digits. -/
theorem exists_shown_number (n : Nat) :
    ∃ d ds, (number n).shown = d :: ds ∧ d.isDigit = true := by
  rcases hshown : (number n).shown with - | ⟨d, ds⟩
  · have hdigits : Nat.toDigits 10 n = [] := by
      rw [← hshown]
      exact (String.toList_ofList ..).symm
    exact absurd hdigits Nat.toDigits_ne_nil
  · refine ⟨d, ds, rfl, isDigit_of_mem_repr (n := n) d ?_⟩
    have hmem : d ∈ (number n).shown := hshown ▸ List.mem_cons_self
    exact hmem

/-- A value is shown as something. -/
theorem shown_ne_nil (value : Value) : value.shown ≠ [] := by
  cases value with
  | text cs => exact List.cons_ne_nil _ _
  | flag b => cases b <;> decide
  | number n =>
    obtain ⟨d, ds, hshown, -⟩ := exists_shown_number n
    rw [hshown]
    exact List.cons_ne_nil _ _

/-- A value is read back from what is shown of it. -/
theorem unquoted_shown (value : Value) : unquoted value.shown = value.read := by
  cases value with
  | text cs =>
    rw [unquoted, shown, List.cons_append, afterLeading, if_pos rfl, Option.bind_some,
      beforeClosing_append]
    rfl
  | flag b => cases b <;> decide
  | number n =>
    obtain ⟨d, ds, hshown, hdigit⟩ := exists_shown_number n
    have hne : d ≠ '"' := by
      rintro rfl
      exact absurd hdigit (by decide)
    have hquote : afterLeading '"' (d :: ds) = none := if_neg hne
    rw [unquoted, hshown, hquote]
    exact hshown.symm

end Value

/-! ### Names -/

theorem isPropertyName_of_all (hnonempty : name ≠ []) (hall : name.all Char.isAlphanum = true) :
    IsPropertyName name :=
  ⟨hnonempty, List.all_eq_true.1 hall⟩

/-- The codes of letters and digits. -/
theorem toNat_of_isAlphanum {c : Char} (h : c.isAlphanum = true) :
    48 ≤ c.toNat ∧ c.toNat ≤ 57 ∨ 65 ≤ c.toNat ∧ c.toNat ≤ 90 ∨ 97 ≤ c.toNat ∧ c.toNat ≤ 122 := by
  have hranges : (decide (65 ≤ c.val ∧ c.val ≤ 90) ||
      (decide (97 ≤ c.val) && decide (c.val ≤ 122)) ||
        (decide (48 ≤ c.val) && decide (c.val ≤ 57))) = true := h
  simp only [Bool.or_eq_true, Bool.and_eq_true, decide_eq_true_eq, UInt32.le_iff_toNat_le]
    at hranges
  change ((65 ≤ c.toNat ∧ c.toNat ≤ 90) ∨ (97 ≤ c.toNat ∧ c.toNat ≤ 122)) ∨
    (48 ≤ c.toNat ∧ c.toNat ≤ 57) at hranges
  omega

/-- No letter or digit is blank. -/
theorem isBlank_of_isAlphanum {c : Char} (h : c.isAlphanum = true) : isBlank c = false := by
  have hrange := toNat_of_isAlphanum h
  simp only [isBlank, Bool.or_eq_false_iff, Bool.and_eq_false_iff, decide_eq_false_iff_not,
    beq_eq_false_iff_ne]
  omega

namespace IsPropertyName

variable (h : IsPropertyName name)

include h

theorem notMem {c : Char} (hc : c.isAlphanum = false) : c ∉ name := by
  intro hmem
  rw [h.letters c hmem] at hc
  cases hc

theorem trim_eq : trim name = name :=
  trim_eq_self (fun c hc ↦ isBlank_of_isAlphanum (h.letters c (List.mem_of_head? hc)))
    fun c hc ↦ isBlank_of_isAlphanum (h.letters c (List.mem_of_getLast? hc))

end IsPropertyName

/-! ### Items as rows -/

/-- The row that an item is. -/
def Item.row : Item → Row
  | .property name value => .property name value.shown
  | .child name => .child name
  | .blank => .blank

theorem child?_row (item : Item) : item.row.child? = item.child? := by
  cases item <;> rfl

/-- The row of an item shows the value that the item has for a property. -/
theorem shown?_row (property : String) (item : Item) :
    item.row.shown? property = (item.value? property).map Value.shown := by
  cases item with
  | property name value =>
    rw [Item.row, Row.shown?, Item.value?]
    split
    · rfl
    · rfl
  | child name => rfl
  | blank => rfl

/-- A line that looks like an item looks like its row. -/
theorem Looks.row (h : Looks item look) : item.row.Looks look := by
  cases h with
  | property hname hbefore hbehind htype hbetween =>
    refine .property (hname.notMem (by decide)) hname.trim_eq (fun hhead ↦ ?_) hbefore hbehind
      htype hbetween (Value.trim_shown _)
    exact absurd (List.mem_of_head? hhead) (hname.notMem (by decide))
  | child hname => exact .child hname
  | blank => exact .blank

/-- What is shown does not end in a blank. -/
theorem Looks.getLast?_ne {c : Char} (h : Looks item look) (hc : isBlank c = true) :
    look.getLast? ≠ some c := by
  intro hlast
  cases h with
  | @property name value before after between type hname hbefore hafter htype hbetween =>
    have hlast' : value.shown.getLast? = some c := by
      have hlook : name.toList ++ before ++ ':' :: (after ++ '(' :: type ++ ')' ::
          (between ++ value.shown)) = name.toList ++ before ++ ':' :: (after ++ '(' :: type ++
            ')' :: between) ++ value.shown := by simp
      rw [← hlast, hlook, List.getLast?_append_of_ne_nil _ value.shown_ne_nil]
    rw [isBlank_getLast?_of_trim value.trim_shown c hlast'] at hc
    cases hc
  | child hname =>
    rw [List.getLast?_concat] at hlast
    cases hlast
    exact absurd hc (by decide)
  | blank => cases hlast

/-- A carriage return at the end of a line is a blank behind what it shows. -/
theorem isLine_of_concat (h : IsLine item (line ++ ['\r'])) : IsLine item line := by
  obtain ⟨hend, front, look, behind, hline, hfront, hbehind, hlook⟩ := h
  refine ⟨fun hmem ↦ hend (List.mem_append_left _ hmem), ?_⟩
  rcases List.eq_nil_or_concat behind with rfl | ⟨behind, c, rfl⟩
  · rcases List.eq_nil_or_concat look with rfl | ⟨look, c, rfl⟩
    · -- a blank line, which is all padding
      rw [List.append_nil, List.append_nil] at hline
      refine ⟨line, [], [], by simp, fun c hc ↦ hfront c ?_, padding_nil, hlook⟩
      rw [← hline]
      exact List.mem_append_left _ hc
    · rw [List.append_nil, List.concat_eq_append, ← List.append_assoc] at hline
      obtain ⟨-, hc⟩ := List.append_inj' hline rfl
      cases hc
      rw [List.concat_eq_append] at hlook
      exact absurd List.getLast?_concat (hlook.getLast?_ne (by decide))
  · rw [List.concat_eq_append, ← List.append_assoc] at hline
    obtain ⟨hline, -⟩ := List.append_inj' hline rfl
    refine ⟨front, look, behind, hline, hfront, fun c hc ↦ hbehind c ?_, hlook⟩
    rw [List.concat_eq_append]
    exact List.mem_append_left _ hc

/-- A line may end with a carriage return, which is not part of it. -/
theorem isLine_withoutCarriageReturn (h : IsLine item line) :
    IsLine item (withoutCarriageReturn line) := by
  rcases List.eq_nil_or_concat line with rfl | ⟨line, c, rfl⟩
  · exact h
  · rw [List.concat_eq_append] at h ⊢
    by_cases hc : c = '\r'
    · subst hc
      rw [withoutCarriageReturn, beforeClosing_append, Option.getD_some]
      exact isLine_of_concat h
    · have hnone : beforeClosing '\r' (line ++ [c]) = none := by
        rw [beforeClosing, List.reverse_append, List.reverse_singleton, List.singleton_append,
          afterLeading, if_neg hc, Option.map_none]
      rw [withoutCarriageReturn, hnone, Option.getD_none]
      exact h

/-! ### Listings -/

/-- The lines of a listing show its items. -/
theorem forall₂_lines (h : Shows listing items) :
    List.Forall₂ IsLine items (lines listing.toList) := by
  obtain ⟨ls, hlisting, hlines⟩ := h
  have hends : ∀ line ∈ ls, '\n' ∉ line := by
    clear hlisting
    induction hlines with
    | nil => exact nofun
    | cons hline _ ih =>
      intro line hmem
      rcases List.mem_cons.1 hmem with rfl | hmem
      · exact hline.1
      · exact ih line hmem
  rw [hlisting, lines_flatMap hends, List.forall₂_map_right_iff]
  exact hlines.imp fun _ _ ↦ isLine_withoutCarriageReturn

/-- A listing of items is one of their rows. -/
theorem Shows.lists (h : Shows listing items) : Lists listing (items.map Item.row) := by
  rw [Lists, List.forall₂_map_left_iff]
  refine (forall₂_lines h).imp ?_
  rintro item line ⟨-, front, look, behind, hline, hfront, hbehind, hlook⟩
  exact ⟨front, look, behind, hline, hfront, hbehind, hlook.row⟩

/-- **The child nodes of a listing are read back.** -/
theorem children_of_shows (h : Shows listing items) :
    children listing = items.filterMap Item.child? := by
  rw [children_of_lists h.lists, List.filterMap_map]
  exact congrArg (items.filterMap ·) (funext child?_row)

/-- **A property is read back**, and one that is not shown is not read. -/
theorem property?_of_shows (h : Shows listing items) (hname : IsPropertyName property.toList) :
    property? listing property =
      (items.findSome? (Item.value? property)).map fun value ↦ String.ofList value.read := by
  have hbracket : property.toList.head? ≠ some '[' := fun hhead ↦
    hname.notMem (by decide) (List.mem_of_head? hhead)
  have hshown : Row.shown? property ∘ Item.row = Option.map Value.shown ∘ Item.value? property :=
    funext (shown?_row property)
  have hread : (fun shown ↦ String.ofList (unquoted shown)) ∘ Value.shown =
      fun value ↦ String.ofList value.read :=
    funext fun value ↦ congrArg String.ofList value.unquoted_shown
  rw [property?_of_lists h.lists hbracket, List.findSome?_map, hshown, ← List.map_findSome?,
    Option.map_map, hread]

end ServerSetup.Listing
