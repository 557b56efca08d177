import ServerSetup.Filter.LoadOrder
import ServerSetup.Proofs.Text.Trim

/-!
# The names in a load order

A load order is read as its names, whatever blanks and empty places stand between them, and names
that are written as a load order are read back. So adding a name and removing one are changes of the
list of names: what becomes of the places of the name itself, and that the other names stay.

Adding and removing answer with nothing if there is nothing to do, and otherwise with the text to be
written. The text is rewritten as a whole, which changes the blanks and drops empty places; so the
laws are stated for the names that are read from it and not for the text. `occurrences` counts a
name without regard to letter case, and `others` are the names that are different.

The algebra of the two operations is collected in `names_add_remove`: adding makes a missing name
occur once, at the end, and changes nothing if it occurs; removing takes all its occurrences away,
also if there are several; the others stay in their order; each is idempotent; and removing undoes
adding where the name was missing.
-/

namespace ServerSetup.LoadOrder

open Text

variable {order changed name : String} {n : List Char} {ns : List (List Char)}

/-- What can be a name in a load order: it is not empty, has no comma and no blanks around it. -/
structure IsName (n : List Char) : Prop where
  nonempty : n ≠ []
  noComma : ',' ∉ n
  trimmed : trim n = n

/-- What is read from a load order are names: not empty, without commas, and without blanks around
them. -/
theorem isName_of_mem_names (h : n ∈ names order) : IsName n := by
  obtain ⟨hplace, hnonempty⟩ := List.mem_filter.1 h
  obtain ⟨place, hsplit, rfl⟩ := List.mem_map.1 hplace
  exact {
    nonempty := by simpa using hnonempty
    noComma := fun hcomma ↦ by
      simpa using (mem_of_mem_splitWhere hsplit _ (mem_of_mem_trim hcomma)).2
    trimmed := trim_trim place }

/-- **Names that are written as a load order are read back.** -/
theorem names_ofNames (h : ∀ n ∈ ns, IsName n) : names (ofNames ns) = ns := by
  have htrim : ns.map trim = ns := by
    conv_rhs => rw [← List.map_id ns]
    exact List.map_congr_left fun n hn ↦ (h n hn).trimmed
  have hfilter : ns.filter (! ·.isEmpty) = ns :=
    List.filter_eq_self.2 fun n hn ↦ by simpa using (h n hn).nonempty
  rw [names, ofNames, String.toList_ofList]
  rcases ns with - | ⟨n, ns⟩
  · rfl
  · have hplain : ∀ m ∈ n :: ns, ',' ∉ m := fun m hm ↦ (h m hm).noComma
    rw [splitWhere_eq_splitOnP, ← List.splitOn_eq_splitOnP,
      List.splitOn_intercalate ',' hplain (List.cons_ne_nil _ _), htrim, hfilter]

/-- The characters of a load order are commas and those of its names. -/
theorem mem_ofNames {c : Char} (h : c ∈ (ofNames ns).toList) : c = ',' ∨ ∃ n ∈ ns, c ∈ n := by
  rw [ofNames, String.toList_ofList] at h
  induction ns with
  | nil => cases h
  | cons n ns ih =>
    rcases ns with - | ⟨m, ns⟩
    · rw [List.intercalate_singleton] at h
      exact .inr ⟨n, List.mem_cons_self, h⟩
    · rw [List.intercalate_cons_cons, List.append_assoc, List.mem_append, List.mem_append,
        List.mem_singleton] at h
      rcases h with h | rfl | h
      · exact .inr ⟨n, List.mem_cons_self, h⟩
      · exact .inl rfl
      · refine (ih h).imp_right ?_
        rintro ⟨k, hk, hc⟩
        exact ⟨k, List.mem_cons_of_mem _ hk, hc⟩

/-! ### The places of a name -/

/-- How often a load order has a name. -/
def occurrences (order name : String) : Nat :=
  (names order).countP (sameIgnoringCase · name.toList)

/-- The other names in a load order. -/
def others (order name : String) : List (List Char) :=
  (names order).filter (! sameIgnoringCase · name.toList)

/-- A name is mentioned if it occurs at least once. -/
theorem mentions_iff : mentions order name = true ↔ 0 < occurrences order name := by
  rw [mentions, List.any_eq_true, occurrences, List.countP_pos_iff]

theorem mentions_eq_false_iff : mentions order name = false ↔ occurrences order name = 0 := by
  rw [← Bool.not_eq_true, mentions_iff, Nat.pos_iff_ne_zero, not_not]

/-- A name that occurs is not added. -/
theorem add?_eq_none_iff : add? order name = none ↔ 0 < occurrences order name := by
  rw [add?, ← mentions_iff]
  split <;> simp_all

/-- A name that does not occur is not removed. -/
theorem remove?_eq_none_iff : remove? order name = none ↔ occurrences order name = 0 := by
  rw [remove?, ← mentions_eq_false_iff]
  split <;> simp_all

/-- A name that is missing is put in front. -/
theorem names_of_add? (hname : IsName name.toList) (h : add? order name = some changed) :
    occurrences order name = 0 ∧ names changed = name.toList :: names order := by
  rw [add?] at h
  split at h
  · cases h
  · next hnot =>
    refine ⟨mentions_eq_false_iff.1 (Bool.not_eq_true _ ▸ hnot), ?_⟩
    rw [← Option.some.inj h]
    exact names_ofNames fun n hn ↦ by
      rcases List.mem_cons.1 hn with rfl | hn
      · exact hname
      · exact isName_of_mem_names hn

/-- With a name put in front, a load order has the characters of both, and commas. -/
theorem notMem_of_add? {c : Char} (hcomma : c ≠ ',') (horder : c ∉ order.toList)
    (hname : c ∉ name.toList) (h : add? order name = some changed) : c ∉ changed.toList := by
  rw [add?] at h
  split at h
  · cases h
  · cases h
    intro hmem
    obtain rfl | ⟨n, hn, hc⟩ := mem_ofNames hmem
    · exact hcomma rfl
    · rcases List.mem_cons.1 hn with rfl | hn
      · exact hname hc
      · obtain ⟨place, hsplit, rfl⟩ := List.mem_map.1 (List.mem_filter.1 hn).1
        exact horder (mem_of_mem_splitWhere hsplit _ (mem_of_mem_trim hc)).1

/-- A name that is there is taken out of all its places. -/
theorem names_of_remove? (h : remove? order name = some changed) :
    0 < occurrences order name ∧ names changed = others order name := by
  rw [remove?] at h
  split at h
  · next hmentions =>
    refine ⟨mentions_iff.1 hmentions, ?_⟩
    rw [← Option.some.inj h]
    exact names_ofNames fun n hn ↦ isName_of_mem_names (List.mem_filter.1 hn).1
  · cases h

/-- A name is the same as itself. -/
theorem sameIgnoringCase_self (n : List Char) : sameIgnoringCase n n = true :=
  sameIgnoringCase_iff.2 rfl

/-- **After a name was added, it is there as often as before, or once if it was not there,** and the
other names are as they were. -/
theorem occurrences_add? (order : String) (hname : IsName name.toList) :
    occurrences ((add? order name).getD order) name = max 1 (occurrences order name) ∧
      others ((add? order name).getD order) name = others order name := by
  rcases hadd : add? order name with - | changed
  · have hpos := add?_eq_none_iff.1 hadd
    exact ⟨by rw [Option.getD_none]; omega, rfl⟩
  · obtain ⟨hzero, hnames⟩ := names_of_add? hname hadd
    have hself : sameIgnoringCase name.toList name.toList = true := sameIgnoringCase_self _
    rw [Option.getD_some, others, hnames, occurrences, hnames, List.countP_cons, if_pos hself,
      List.filter_cons_of_neg (by simp [hself]), ← occurrences, hzero]
    exact ⟨rfl, rfl⟩

/-- Where a name is missing, all names are others. -/
theorem others_eq_names (h : occurrences order name = 0) : others order name = names order :=
  List.filter_eq_self.2 fun n hn ↦ by simpa using List.countP_eq_zero.1 h n hn

/-- **After a name was removed, it is nowhere,** and the other names are as they were. -/
theorem names_remove? :
    names ((remove? order name).getD order) = others order name := by
  rcases hremove : remove? order name with - | changed
  · rw [Option.getD_none, others_eq_names (remove?_eq_none_iff.1 hremove)]
  · exact (names_of_remove? hremove).2

theorem occurrences_eq_zero_of_names_eq_others (h : names changed = others order name) :
    occurrences changed name = 0 := by
  rw [occurrences, h, List.countP_eq_zero]
  intro n hn
  simpa using (List.mem_filter.1 hn).2

/-! ### Adding and removing in turn -/

/-- A name occurs if one of the names is the same without regard to letter case. -/
theorem occurrences_pos_iff :
    0 < occurrences order name ↔ ∃ n ∈ names order, sameIgnoringCase n name.toList = true :=
  List.countP_pos_iff

/-- Removing a name leaves the others, with commas between them. -/
theorem remove?_of_pos (h : 0 < occurrences order name) :
    remove? order name = some (ofNames (others order name)) := by
  rw [remove?, if_pos (mentions_iff.2 h), others]

/-- A name that was added is there once, and the other names are as they were. -/
theorem occurrences_of_add? (hname : IsName name.toList) (h : add? order name = some changed) :
    occurrences changed name = 1 ∧ others changed name = names order := by
  obtain ⟨hcount, hothers⟩ := occurrences_add? order hname
  have hzero := (names_of_add? hname h).1
  rw [h, Option.getD_some] at hcount hothers
  rw [hcount, hothers, hzero, others_eq_names hzero]
  exact ⟨rfl, rfl⟩

/-- **The laws of adding and removing.** A name is added if it is missing, in front of the names
that are there, and removed if it is there, from all its places. Adding it again and removing it
again do nothing, removing what was added gives the names back, and the other names stay, as often
as they were and in their order. -/
theorem names_add_remove (order : String) (hname : IsName name.toList) :
    (add? order name = none ↔ ∃ n ∈ names order, sameIgnoringCase n name.toList = true) ∧
      (∀ changed, add? order name = some changed →
        names changed = name.toList :: names order ∧ add? changed name = none ∧
          remove? changed name = some (ofNames (names order)) ∧
          others changed name = others order name) ∧
      (remove? order name = none ↔ add? order name ≠ none) ∧
      (∀ changed, remove? order name = some changed →
        names changed = others order name ∧ remove? changed name = none ∧
          others changed name = others order name) := by
  refine ⟨add?_eq_none_iff.trans occurrences_pos_iff, fun changed hadd ↦ ?_, ?_,
    fun changed hremove ↦ ?_⟩
  · obtain ⟨hzero, hnames⟩ := names_of_add? hname hadd
    obtain ⟨hone, hothers⟩ := occurrences_of_add? hname hadd
    have hpos : 0 < occurrences changed name := hone ▸ Nat.one_pos
    refine ⟨hnames, add?_eq_none_iff.2 hpos, ?_, hothers.trans (others_eq_names hzero).symm⟩
    rw [remove?_of_pos hpos, hothers]
  · rw [remove?_eq_none_iff, Ne, add?_eq_none_iff, Nat.pos_iff_ne_zero, not_not]
  · have hnames := (names_of_remove? hremove).2
    have hzero := occurrences_eq_zero_of_names_eq_others hnames
    exact ⟨hnames, remove?_eq_none_iff.2 hzero, (others_eq_names hzero).trans hnames⟩

/-- The name is a part of other names, there are empty places, and another name is there twice. -/
theorem names_add_remove_resin :
    let order := " A ,,ResinOld, a,A"
    IsName "Resin".toList ∧ add? order "Resin" = some "Resin,A,ResinOld,a,A" ∧
      add? "Resin,A,ResinOld,a,A" "rESIN" = none ∧
      remove? "Resin,A,ResinOld,a,A" "Resin" = some "A,ResinOld,a,A" ∧
      others "A, resin ,RESIN,ResinOld,A" "Resin" = ["A", "ResinOld", "A"].map String.toList := by
  intro order
  have hname : IsName "Resin".toList := ⟨by decide, by decide, by decide⟩
  have hadd : add? order "Resin" = some "Resin,A,ResinOld,a,A" := by decide +kernel
  have hback := ((names_add_remove order hname).2.1 _ hadd).2.2.1
  refine ⟨hname, hadd, by decide +kernel, ?_, by decide +kernel⟩
  rw [hback]
  decide +kernel

end ServerSetup.LoadOrder
