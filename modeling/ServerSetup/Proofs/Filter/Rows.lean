import Mathlib.Data.List.Forall2
import ServerSetup.Filter.Listing
import ServerSetup.Proofs.Text.AsciiCase
import ServerSetup.Proofs.Text.Trim

/-!
# The rows of a listing

A line of a listing shows a property as `Name : (TYPE) value` or a child node as its path in
brackets, with any blanks as padding, or nothing. Each kind is read back, and neither is taken for
the other (`children_of_lists`, `property?_of_lists`): the name of a property ends at the first
colon, its type at the first closing parenthesis, and whatever stands behind them is the value.

The reader cuts lines at single characters, so the conditions on a row are on which characters may
occur where: none on the value, no colon in the name, no closing parenthesis in the type. The
description of a row (`Looks`) leaves the padding open at each of the four places where it may
stand. A child is the last part of its path, so its name has no slash.

A line in brackets may contain a colon. What stands before it then starts with a bracket, and is no
name that is ever asked for; this is the one point where the two kinds of lines could be confused.
-/

namespace ServerSetup.Listing

open Text

/-! ### The form of a row -/

/-- What a line of a listing shows. -/
inductive Row
  /-- A property with the text of its value, which has quotes around it if it is a string. -/
  | property (name : String) (shown : List Char)
  | child (name : String)
  | blank

/-- The name of a node is a segment of a path. -/
structure IsNodeName (name : List Char) : Prop where
  nonempty : name ≠ []
  noSlash : '/' ∉ name

/-- Only blanks, as they stand between the parts of a line. -/
def Padding (cs : List Char) : Prop := ∀ c ∈ cs, isBlank c = true

/-- What a row looks like, without the blanks around it. The name of a property has no colon, and
the row is not in brackets as a whole. -/
inductive Row.Looks : Row → List Char → Prop
  | property {name : String} {shown before behind between type : List Char}
      (hcolon : ':' ∉ name.toList) (hname : trim name.toList = name.toList)
      (hbracket : name.toList.head? = some '[' → shown.getLast? ≠ some ']')
      (hbefore : Padding before) (hbehind : Padding behind) (htype : ')' ∉ type)
      (hbetween : Padding between) (hshown : trim shown = shown) :
      Row.Looks (.property name shown) (name.toList ++ before ++ ':' ::
        (behind ++ '(' :: type ++ ')' :: (between ++ shown)))
  | child {name : String} {path : List Char} (hname : IsNodeName name.toList) :
      Row.Looks (.child name) ('[' :: path ++ '/' :: name.toList ++ [']'])
  | blank : Row.Looks .blank []

/-- A line shows a row, perhaps with blanks around it. -/
def IsRow (row : Row) (line : List Char) : Prop :=
  ∃ front look behind, line = front ++ look ++ behind ∧
    Padding front ∧ Padding behind ∧ row.Looks look

/-- The lines of a listing show rows. -/
def Lists (listing : String) (rows : List Row) : Prop :=
  List.Forall₂ IsRow rows (lines listing.toList)

namespace Row

/-- The child node that a row is. -/
def child? : Row → Option String
  | child name => some name
  | _ => none

/-- The text that a row shows for a property. -/
def shown? (property : String) : Row → Option (List Char)
  | .property name shown => if equalIgnoringCase name property then some shown else none
  | _ => none

/-- The name of the property that a row shows, in small letters. -/
def key? : Row → Option (List Char)
  | .property name _ => some (name.toList.map Char.toLower)
  | _ => none

end Row

variable {row : Row} {line look front behind between type cs name shown : List Char}
  {rows : List Row} {listing property : String}

/-! ### Parts of a line -/

theorem padding_nil : Padding [] := fun _ hc ↦ absurd hc List.not_mem_nil

theorem colon_notMem_padding (h : Padding cs) : ':' ∉ cs := by
  intro hmem
  exact absurd (h _ hmem) (by decide)

/-- A text is cut at a character that does not stand before. -/
theorem cutAtFirst_append {c : Char} {before : List Char} (h : c ∉ before) (rest : List Char) :
    cutAtFirst c (before ++ c :: rest) = some (before, rest) := by
  induction before with
  | nil => rw [List.nil_append, cutAtFirst, if_pos rfl]
  | cons d before ih =>
    rw [List.mem_cons, not_or] at h
    rw [List.cons_append, cutAtFirst, if_neg (Ne.symm h.1), ih h.2]
    rfl

/-- What comes before without the character belongs to the front. -/
theorem cutAtFirst_append_left {c : Char} (h : c ∉ front) (rest : List Char) :
    cutAtFirst c (front ++ rest) =
      (cutAtFirst c rest).map fun (before, after) ↦ (front ++ before, after) := by
  induction front with
  | nil =>
    rw [List.nil_append]
    rcases cutAtFirst c rest with - | ⟨before, after⟩
    · rfl
    · rfl
  | cons d front ih =>
    rw [List.mem_cons, not_or] at h
    rw [List.cons_append, cutAtFirst, if_neg (Ne.symm h.1), ih h.2]
    rcases cutAtFirst c rest with - | ⟨before, after⟩
    · rfl
    · rfl

/-- A text without the character is not cut. -/
theorem cutAtFirst_eq_none {c : Char} (h : c ∉ cs) : cutAtFirst c cs = none := by
  induction cs with
  | nil => rfl
  | cons d cs ih =>
    rw [List.mem_cons, not_or] at h
    rw [cutAtFirst, if_neg (Ne.symm h.1), ih h.2]
    rfl

theorem beforeClosing_append (c : Char) (cs : List Char) :
    beforeClosing c (cs ++ [c]) = some cs := by
  rw [beforeClosing, List.reverse_append, List.reverse_singleton, List.singleton_append,
    afterLeading, if_pos rfl, Option.map_some, List.reverse_reverse]

theorem afterLeading_eq_none {c : Char} (h : cs.head? ≠ some c) : afterLeading c cs = none := by
  rcases cs with - | ⟨d, cs⟩
  · rfl
  · exact if_neg fun heq ↦ h (congrArg some heq)

theorem beforeClosing_eq_none {c : Char} (h : cs.getLast? ≠ some c) :
    beforeClosing c cs = none := by
  rw [beforeClosing, afterLeading_eq_none, Option.map_none]
  rwa [List.head?_reverse]

/-- What does not start and end with brackets is not in brackets. -/
theorem bracketed_eq_none (h : cs.head? = some '[' → cs.getLast? ≠ some ']') :
    (afterLeading '[' cs).bind (beforeClosing ']') = none := by
  by_cases hhead : cs.head? = some '['
  · obtain ⟨rest, rfl⟩ := List.head?_eq_some_iff.1 hhead
    rw [afterLeading, if_pos rfl, Option.bind_some, beforeClosing_eq_none]
    intro hlast
    refine h hhead ?_
    rw [List.getLast?_cons, hlast]
    rfl
  · rw [afterLeading_eq_none hhead, Option.bind_none]

/-- The last segment of a path that ends in the name of a node. -/
theorem lastSegment_eq (h : IsNodeName name) (path : List Char) :
    ((dropEndWhile (· == '/') (path ++ '/' :: name)).reverse.takeWhile (· != '/')).reverse =
      name := by
  have hslash : ∀ c ∈ name.reverse, (c != '/') = true := by
    intro c hc
    rw [bne_iff_ne]
    rintro rfl
    exact h.noSlash (List.mem_reverse.1 hc)
  have hreverse : (path ++ '/' :: name).reverse = name.reverse ++ '/' :: path.reverse := by simp
  have hkept : dropEndWhile (· == '/') (path ++ '/' :: name) = path ++ '/' :: name := by
    rw [dropEndWhile, hreverse]
    rcases hname : name.reverse with - | ⟨c, cs⟩
    · exact absurd (List.reverse_eq_nil_iff.1 hname) h.nonempty
    · have hc : (c != '/') = true := hslash c (hname ▸ List.mem_cons_self)
      rw [List.cons_append, List.dropWhile_cons_of_neg (by simpa using hc), ← List.cons_append,
        ← hname, ← hreverse, List.reverse_reverse]
  rw [hkept, hreverse, List.takeWhile_append_of_pos hslash, List.takeWhile_cons_of_neg (by simp),
    List.append_nil, List.reverse_reverse]

/-- A value is found behind its type. -/
theorem untyped_typed (htype : ')' ∉ type) (hbetween : Padding between) (hbehind : Padding behind)
    (hshown : trim shown = shown) :
    untyped (trim ('(' :: type ++ ')' :: (between ++ shown) ++ behind)) = shown := by
  have hparts : '(' :: type ++ ')' :: (between ++ shown) ++ behind =
      '(' :: type ++ [')'] ++ (between ++ shown ++ behind) := by simp
  have htyped : trim ('(' :: type ++ [')'] ++ (between ++ shown ++ behind)) =
      '(' :: type ++ [')'] ++ trimEnd (between ++ shown ++ behind) :=
    trim_append (List.cons_ne_nil _ _) (trim_enclosed (by decide) (by decide) type) _
  rw [hparts, htyped, untyped, List.cons_append, List.cons_append, afterLeading, if_pos rfl]
  dsimp only
  rw [List.append_assoc, List.singleton_append, cutAtFirst_append htype, Option.map_some,
    Option.getD_some, trim_trimEnd, trim_padded hbetween hbehind, hshown]

/-! ### The two kinds of rows -/

/-- What a property starts with is its name, or a colon if that is empty. -/
theorem head?_trim_property (hname : trim name = name) (hbefore : Padding before)
    (typed : List Char) (h : (trim (name ++ before ++ ':' :: typed)).head? = some '[') :
    name.head? = some '[' := by
  rcases name with - | ⟨c, rest⟩
  · have htrim := trim_padded hbefore padding_nil (':' :: typed)
    have hcolon : (trim (':' :: typed)).head? = some ':' := head?_trim rfl (by decide)
    rw [List.append_nil] at htrim
    rw [List.nil_append, htrim, hcolon] at h
    cases h
  · have hc : isBlank c = false := isBlank_head?_of_trim hname c rfl
    rwa [head?_trim (c := c) rfl hc] at h

/-- What a property ends with is its value, or a parenthesis if that is empty. -/
theorem getLast?_trim_property (hbetween : Padding between) (hshown : trim shown = shown)
    (titled : List Char) (h : (trim (titled ++ ')' :: (between ++ shown))).getLast? = some ']') :
    shown.getLast? = some ']' := by
  by_cases hnil : shown = []
  · have htrim := trim_padded padding_nil hbetween (titled ++ [')'])
    have hclosing : (trim (titled ++ [')'])).getLast? = some ')' :=
      getLast?_trim List.getLast?_concat (by decide)
    rw [hnil, List.append_nil, List.append_cons] at h
    rw [List.nil_append] at htrim
    rw [htrim, hclosing] at h
    cases h
  · have hlast := List.getLast?_eq_some_getLast hnil
    have hend : (titled ++ ')' :: (between ++ shown)).getLast? = some (shown.getLast hnil) := by
      rw [← hlast, List.append_cons, ← List.append_assoc, List.getLast?_append_of_ne_nil _ hnil]
    rw [getLast?_trim hend (isBlank_getLast?_of_trim hshown _ hlast)] at h
    rw [hlast, h]

/-- A line that looks like a row shows the child of the row, if it is one. -/
theorem lineChild?_of_looks (hfront : Padding front) (hbehind : Padding behind)
    (h : row.Looks look) : lineChild? (front ++ look ++ behind) = row.child?.map String.toList := by
  rw [lineChild?, trim_padded hfront hbehind]
  cases h with
  | @property name shown before after between type hcolon hname hbracket hbefore hafter htype
      hbetween hshown =>
    have hnone : (afterLeading '[' (trim (name.toList ++ before ++ ':' ::
        (after ++ '(' :: type ++ ')' :: (between ++ shown))))).bind (beforeClosing ']') = none := by
      refine bracketed_eq_none fun hhead hlast ↦ ?_
      refine hbracket (head?_trim_property hname hbefore _ hhead) ?_
      rw [← List.cons_append, ← List.append_assoc] at hlast
      exact getLast?_trim_property hbetween hshown _ hlast
    rw [hnone]
    rfl
  | @child name path hname =>
    have htrim : trim ('[' :: path ++ '/' :: name.toList ++ [']']) =
        '[' :: path ++ '/' :: name.toList ++ [']'] :=
      trim_enclosed (by decide) (by decide) (path ++ '/' :: name.toList)
    rw [htrim, List.cons_append, List.cons_append, afterLeading, if_pos rfl, Option.bind_some,
      beforeClosing_append, Option.bind_some]
    dsimp only
    rw [lastSegment_eq hname, if_neg (by simpa using hname.nonempty)]
    rfl
  | blank => rfl

/-- A text that starts with a bracket is no name that does not. -/
theorem sameIgnoringCase_bracket (hname : name.head? ≠ some '[') (cs : List Char) :
    sameIgnoringCase (trim ('[' :: cs)) name = false := by
  have hhead : (trim ('[' :: cs)).head? = some '[' := head?_trim rfl (by decide)
  obtain ⟨rest, hrest⟩ := List.head?_eq_some_iff.1 hhead
  rw [hrest, ← Bool.not_eq_true, sameIgnoringCase_iff]
  intro hsame
  rcases name with - | ⟨c, name⟩
  · cases hsame
  · rw [List.map_cons, List.map_cons, List.cons.injEq] at hsame
    exact hname (congrArg some (eq_of_toLower_eq hsame.1.symm (by decide)))

/-- A line that looks like a row shows the value of the row for a property, if it has one. -/
theorem lineProperty?_of_looks (hproperty : property.toList.head? ≠ some '[')
    (hfront : Padding front) (hbehind : Padding behind) (h : row.Looks look) :
    lineProperty? property.toList (front ++ look ++ behind) =
      (row.shown? property).map unquoted := by
  cases h with
  | @property name shown before after between type hcolon hname hbracket hbefore hafter htype
      hbetween hshown =>
    have hcolon' : ':' ∉ front ++ name.toList ++ before := by
      simp only [List.mem_append, not_or]
      exact ⟨⟨colon_notMem_padding hfront, hcolon⟩, colon_notMem_padding hbefore⟩
    have hline : front ++ (name.toList ++ before ++ ':' :: (after ++ '(' :: type ++ ')' ::
        (between ++ shown))) ++ behind = front ++ name.toList ++ before ++ ':' ::
          (after ++ ('(' :: type ++ ')' :: (between ++ shown) ++ behind)) := by
      simp only [List.append_assoc, List.cons_append]
    have hvalue : trim (after ++ ('(' :: type ++ ')' :: (between ++ shown) ++ behind)) =
        trim ('(' :: type ++ ')' :: (between ++ shown) ++ behind) := by
      rw [← List.append_nil (after ++ _), trim_padded hafter padding_nil]
    rw [lineProperty?, hline, cutAtFirst_append hcolon']
    dsimp only
    rw [trim_padded hfront hbefore, hname, hvalue, untyped_typed htype hbetween hbehind hshown,
      Row.shown?]
    show (if equalIgnoringCase name property then _ else _) = _
    split
    · rfl
    · rfl
  | @child name path hname =>
    rw [lineProperty?, List.append_assoc, cutAtFirst_append_left (colon_notMem_padding hfront)]
    have hrest : '[' :: path ++ '/' :: name.toList ++ [']'] ++ behind =
        '[' :: (path ++ '/' :: name.toList ++ [']'] ++ behind) := by simp
    rw [hrest, cutAtFirst, if_neg (by decide)]
    -- There may be a colon in the path; what stands in front of it starts with the bracket, which
    -- no property does.
    rcases cutAtFirst ':' (path ++ '/' :: name.toList ++ [']'] ++ behind) with - | ⟨before, after⟩
    · rfl
    · dsimp only [Option.map_some]
      rw [← List.append_nil (front ++ _), trim_padded hfront padding_nil,
        sameIgnoringCase_bracket hproperty, if_neg Bool.false_ne_true]
      rfl
  | blank =>
    have hcolon : ':' ∉ front ++ [] ++ behind := by
      simp only [List.mem_append, List.not_mem_nil, or_false, not_or]
      exact ⟨colon_notMem_padding hfront, colon_notMem_padding hbehind⟩
    rw [lineProperty?, cutAtFirst_eq_none hcolon]
    rfl

/-! ### Listings -/

/-- **The child nodes of a listing are read back.** -/
theorem children_of_lists (h : Lists listing rows) :
    children listing = rows.filterMap Row.child? := by
  rw [Lists] at h
  rw [children]
  generalize lines listing.toList = ls at h
  induction h with
  | nil => rfl
  | @cons row line rows ls hline _ ih =>
    obtain ⟨front, look, behind, rfl, hfront, hbehind, hlook⟩ := hline
    have hchild := lineChild?_of_looks hfront hbehind hlook
    rcases hrow : row.child? with - | name
    · rw [hrow, Option.map_none] at hchild
      rw [List.filterMap_cons_none hchild, List.filterMap_cons_none hrow, ih]
    · rw [hrow, Option.map_some] at hchild
      rw [List.filterMap_cons_some hchild, List.filterMap_cons_some hrow, List.map_cons, ih,
        String.ofList_toList]

/-- **A property is read back** from the first row that shows it, and one that no row shows is not
read. -/
theorem property?_of_lists (h : Lists listing rows)
    (hproperty : property.toList.head? ≠ some '[') : property? listing property =
      (rows.findSome? (Row.shown? property)).map fun shown ↦ String.ofList (unquoted shown) := by
  rw [Lists] at h
  rw [property?]
  generalize lines listing.toList = ls at h
  induction h with
  | nil => rfl
  | @cons row line rows ls hline _ ih =>
    obtain ⟨front, look, behind, rfl, hfront, hbehind, hlook⟩ := hline
    have hvalue := lineProperty?_of_looks hproperty hfront hbehind hlook
    rw [List.findSome?_cons, List.findSome?_cons, hvalue]
    rcases row.shown? property with - | shown
    · exact ih
    · rfl

/-- If no two names are the same in any letter case, each row is the only one that shows its
property. -/
theorem findSome?_shown?_of_mem (hdistinct : (rows.filterMap Row.key?).Nodup) (hrow : row ∈ rows)
    (hshown : row.shown? property = some shown) :
    rows.findSome? (Row.shown? property) = some shown := by
  have hkey {row : Row} {shown : List Char} (h : row.shown? property = some shown) :
      row.key? = some (property.toList.map Char.toLower) := by
    cases row with
    | property name value =>
      rw [Row.shown?, Option.ite_none_right_eq_some] at h
      rw [Row.key?, sameIgnoringCase_iff.1 h.1]
    | child name => cases h
    | blank => cases h
  induction rows with
  | nil => cases hrow
  | cons first rows ih =>
    rw [List.findSome?_cons]
    rcases List.mem_cons.1 hrow with rfl | hrow
    · rw [hshown]
    · rcases hfirst : first.shown? property with - | other
      · exact ih (hdistinct.sublist ((List.sublist_cons_self first rows).filterMap _)) hrow
      · rw [List.filterMap_cons_some (hkey hfirst), List.nodup_cons] at hdistinct
        exact absurd (List.mem_filterMap.2 ⟨row, hrow, hkey hshown⟩) hdistinct.1

end ServerSetup.Listing
