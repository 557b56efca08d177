import Mathlib.Algebra.Group.Nat.Defs
import ServerSetup.Proofs.Json.Forms
import ServerSetup.Rollback.Document

/-!
# Rollback documents are read back

The document of a state gives the state back (`ofBytes?_document`), whatever texts are in it.

The document is a JSON object with a member for each field, laid out in lines with spaces before
them (`bytesOf_document`). The reader takes it apart into its members, finds each field by its name
and reads its text on its own. So the proof has a lemma for each kind of field that says its text is
a JSON value and is read back: identifiers in hexadecimal digits and groups, classes of accounts by
their names, truth values, texts that may be missing, and moments as arrays of numbers. What is
special about a text inside quotes is known from the theory of JSON texts.

A moment is read back only if it is one (`Moment.Valid`). The reader checks the parts of what it
reads, and a state with an hour of 25 could be written, but not read.
-/

namespace ServerSetup

open Json

/-! ### Identifiers -/

namespace Identifier

variable {places n : Nat} {c : Char}

theorem length_hexDigits : (hexDigits places n).length = places := by
  induction places generalizing n with
  | zero => rfl
  | succ places ih => rw [hexDigits, List.length_append, ih, List.length_singleton]

theorem exists_of_mem_hexDigits (h : c ∈ hexDigits places n) : ∃ k < 16, c = hexDigit k := by
  induction places generalizing n with
  | zero => simp [hexDigits] at h
  | succ places ih =>
    rw [hexDigits, List.mem_append, List.mem_singleton] at h
    obtain h | rfl := h
    · exact ih h
    · exact ⟨n % 16, Nat.mod_lt n (by decide), rfl⟩

/-- The last digit of a number counts once, and those before it sixteen times. -/
theorem hexNumber?_concat (cs : List Char) (c : Char) : hexNumber? (cs ++ [c]) =
    (hexNumber? cs).bind fun n ↦ (hexValue? c).map (16 * n + ·) :=
  List.foldl_append ..

/-- A number is read back from its digits, if it has no more than these. -/
theorem hexNumber?_hexDigits (h : n < 16 ^ places) : hexNumber? (hexDigits places n) = some n := by
  induction places generalizing n with
  | zero =>
    obtain rfl : n = 0 := by simpa using h
    rfl
  | succ places ih =>
    have hhigh : n / 16 < 16 ^ places := by
      rw [Nat.pow_succ] at h
      exact Nat.div_lt_of_lt_mul (by rwa [Nat.mul_comm])
    rw [hexDigits, hexNumber?_concat, ih hhigh, Option.bind_some,
      (hexDigit_spec (n % 16) (Nat.mod_lt n (by decide))).1]
    exact congrArg some (Nat.div_add_mod n 16)

/-- A hexadecimal digit is no mark that stands beside the digits. -/
theorem hexDigit_ne : ∀ k < 16, hexDigit k ≠ '-' ∧ hexDigit k ≠ '{' ∧ hexDigit k ≠ 'u' := by
  decide

/-- Taking the dashes out of the groups gives the digits again. -/
theorem filter_grouped {digits : List Char} (h : ∀ c ∈ digits, c ≠ '-') :
    (grouped digits).filter (· != '-') = digits := by
  have hkeep {part : List Char} (hpart : part ⊆ digits) : part.filter (· != '-') = part :=
    List.filter_eq_self.2 fun c hc ↦ bne_iff_ne.2 (h c (hpart hc))
  have hmid (i j : Nat) : ((digits.drop i).take j) ⊆ digits :=
    fun _ hc ↦ List.mem_of_mem_drop (List.mem_of_mem_take hc)
  have hcut (i j : Nat) : (digits.drop i).take j ++ digits.drop (i + j) = digits.drop i := by
    rw [← List.drop_drop, List.take_append_drop]
  have hmark : ('-' != '-') = false := by decide
  simp only [grouped, List.filter_append, List.filter_cons, hmark, Bool.false_eq_true, if_false,
    hkeep (hmid _ _), hkeep (List.take_subset _ _), hkeep (List.drop_subset _ _),
    List.append_assoc, hcut]
  exact List.take_append_drop 8 digits

/-- A text that starts with a digit is wrapped in nothing. -/
theorem unwrapped_cons {cs : List Char} (hbrace : c ≠ '{') (hu : c ≠ 'u') :
    unwrapped (c :: cs) = c :: cs := by
  rw [unwrapped.eq_def]
  split
  · next heq => exact absurd (List.cons.inj heq).1 hbrace
  · next heq => exact absurd (List.cons.inj heq).1 hu
  · rfl

/-- **An identifier is read back.** -/
theorem ofText?_text (id : Identifier) : ofText? id.text = some id := by
  have hdigits : ofDigits? (hexDigits 32 id.value.val) = some id := by
    rw [ofDigits?, if_pos length_hexDigits, hexNumber?_hexDigits id.value.isLt, Option.map_some]
    exact congrArg some (congrArg mk (Fin.ext (Nat.mod_eq_of_lt id.value.isLt)))
  have hlong : ofDigits? (grouped (hexDigits 32 id.value.val)) = none := by
    refine if_neg ?_
    simp [grouped, length_hexDigits]
  have hmark : ∀ c ∈ hexDigits 32 id.value.val, c ≠ '-' := by
    intro c hc
    obtain ⟨k, hk, rfl⟩ := exists_of_mem_hexDigits hc
    exact (hexDigit_ne k hk).1
  have hplain : unwrapped (grouped (hexDigits 32 id.value.val)) =
      grouped (hexDigits 32 id.value.val) := by
    obtain ⟨c, cs, hcons⟩ := List.exists_cons_of_length_pos
      (l := hexDigits 32 id.value.val) (by rw [length_hexDigits]; decide)
    obtain ⟨k, hk, rfl⟩ := exists_of_mem_hexDigits (hcons ▸ List.mem_cons_self)
    rw [hcons]
    exact unwrapped_cons (hexDigit_ne k hk).2.1 (hexDigit_ne k hk).2.2
  rw [ofText?, text, String.toList_ofList, hlong]
  show ofGrouped? _ = _
  rw [hplain, ofGrouped?, filter_grouped hmark, if_pos rfl, hdigits]

end Identifier

/-! ### Kinds of accounts and moments -/

theorem AccountClass.ofText?_text (a : AccountClass) : ofText? a.text = some a := by
  cases a <;> decide

theorem AccountClass.ofJson?_quote (a : AccountClass) :
    ofJson? (Text.bytesOf (quote a.text)) = some a := by
  rw [bytesOf_quote, ofJson?, show members? (quoted (innerBytes a.text)) = none from rfl]
  show (unquote? _).bind ofText? = _
  rw [unquote?_quoted, Option.bind_some, ofText?_text]

namespace Moment

/-- The parts of a moment are small enough for the reader of numbers. -/
theorem bounds_of_inRange {m : Moment} (h : m.inRange = true) :
    ∀ n ∈ m.parts, (-0x80000000 : Int) ≤ n ∧ n ≤ 0xFFFFFFFF := by
  have hdays : daysIn m.year ≤ 366 := by
    rw [daysIn]
    split <;> decide
  simp only [inRange, Bool.and_eq_true, decide_eq_true_eq] at h
  simp only [parts, List.forall_mem_cons, List.not_mem_nil, false_implies, implies_true, and_true]
  omega

end Moment

namespace Rollback.State

variable {s : Rollback.State}

/-! ### The document as bytes -/

/-- The bytes of texts that are set apart by commas and spaces. -/
theorem joined_map_bytesOf {pad : String} {texts : List String} (h : texts ≠ []) :
    joined (Text.bytesOf pad) (texts.map Text.bytesOf) =
      Text.bytesOf (pad ++ String.intercalate ("," ++ pad) texts) := by
  induction texts with
  | nil => exact absurd rfl h
  | cons text texts ih =>
    rcases texts with - | ⟨text', texts⟩
    · rw [List.map_cons, List.map_nil, joined, String.intercalate_singleton, Text.bytesOf_append]
    · have hcomma : Text.bytesOf "," = [0x2C] := rfl
      have hrest := ih (List.cons_ne_nil _ _)
      rw [List.map_cons] at hrest
      rw [List.map_cons, List.map_cons, joined, hrest, String.intercalate_cons_cons]
      · simp only [Text.bytesOf_append, hcomma, List.append_assoc, List.cons_append,
          List.nil_append]
      · exact List.cons_ne_nil _ _

theorem isSpace_pad : (∀ b ∈ Text.bytesOf "\n  ", isSpace b = true) ∧
    (∀ b ∈ Text.bytesOf "\n    ", isSpace b = true) ∧
    ∀ b ∈ Text.bytesOf "\n", isSpace b = true := by
  decide +kernel

/-- The members of the document: the names of the fields with their JSON texts. -/
def members (s : Rollback.State) : List (List UInt8 × List UInt8) :=
  List.zipWith (fun name text ↦ (innerBytes name, Text.bytesOf text)) fieldNames s.fieldTexts

/-- The names of the fields stand for themselves. -/
theorem innerBytes_of_mem_fieldNames :
    ∀ name ∈ fieldNames, innerBytes name = Text.bytesOf name := by
  have hplain : ∀ name ∈ fieldNames, name.toList.flatMap escapeChar = name.toList := by
    decide
  intro name hname
  rw [innerBytes, hplain name hname, String.ofList_toList]

/-- The document is an object with these members. -/
theorem bytesOf_document (s : Rollback.State) : Text.bytesOf s.document =
    objectBytes (Text.bytesOf "\n  ") (Text.bytesOf "\n") s.members := by
  have hmembers : s.members.map (fun m ↦ memberBytes m.1 m.2) =
      (List.zipWith (fun name text ↦ "\"" ++ name ++ "\": " ++ text) fieldNames s.fieldTexts).map
        Text.bytesOf := by
    simp only [members, ← List.map_uncurry_zip_eq_zipWith, List.map_map]
    refine List.map_congr_left fun ⟨name, text⟩ hmem ↦ ?_
    have hname := innerBytes_of_mem_fieldNames name (List.of_mem_zip hmem).1
    simp only [Function.comp_apply, Function.uncurry_apply_pair, hname, memberBytes, quoted,
      Text.bytesOf_append, List.append_assoc]
    rfl
  have hopen : Text.bytesOf "\x7b\n  " = 0x7B :: Text.bytesOf "\n  " := by decide +kernel
  have hclose : Text.bytesOf "\n\x7d" = Text.bytesOf "\n" ++ [0x7D] := by decide +kernel
  have hcomma : ",\n  " = "," ++ "\n  " := by decide
  rw [objectBytes, hmembers, joined_map_bytesOf (by simp [fieldNames, fieldTexts]), document,
    hcomma]
  simp only [Text.bytesOf_append, hopen, hclose, List.cons_append, List.append_assoc]

/-! ### The fields -/

theorem bytesOf_truth (b : Bool) : IsValue (Text.bytesOf (Text.truth b)) ∧
    bool? (Text.bytesOf (Text.truth b)) = some b :=
  reads_bool (by cases b <;> rfl)

/-- A text that may be missing is read back. -/
theorem bytesOf_nullable (text : Option String) :
    IsValue (Text.bytesOf ((text.map quote).getD "null")) ∧
      nullable? string? (Text.bytesOf ((text.map quote).getD "null")) = some text := by
  refine reads_optionalString ?_
  rcases text with - | text
  · rfl
  · show WritesString text (Text.bytesOf (quote text))
    rw [bytesOf_quote]
    exact writesString_quoted text

/-- The text of a moment. -/
def momentText (m : Moment) : String :=
  "[\n    " ++ String.intercalate ",\n    " (m.parts.map toString) ++ "\n  ]"

theorem bytesOf_momentText (m : Moment) : Text.bytesOf (momentText m) =
    arrayBytes (Text.bytesOf "\n    ") (Text.bytesOf "\n  ")
      (m.parts.map fun n ↦ Text.bytesOf (toString n)) := by
  have hopen : Text.bytesOf "[\n    " = 0x5B :: Text.bytesOf "\n    " := by decide +kernel
  have hclose : Text.bytesOf "\n  ]" = Text.bytesOf "\n  " ++ [0x5D] := by decide +kernel
  have hcomma : ",\n    " = "," ++ "\n    " := by decide
  have hparts : m.parts.map (fun n ↦ Text.bytesOf (toString n)) =
      (m.parts.map toString).map Text.bytesOf := List.map_map.symm
  rw [arrayBytes, hparts, joined_map_bytesOf (by simp [Moment.parts]), momentText, hcomma]
  simp only [Text.bytesOf_append, hopen, hclose, List.cons_append, List.append_assoc]

theorem isValue_momentText (m : Moment) : IsValue (Text.bytesOf (momentText m)) := by
  rw [bytesOf_momentText]
  refine isValue_arrayBytes (by simp [Moment.parts]) isSpace_pad.2.1 isSpace_pad.1 fun item h ↦ ?_
  obtain ⟨n, -, rfl⟩ := List.mem_map.1 h
  exact isValue_toString n

/-- A moment is read back. -/
theorem ofJson?_momentText {m : Moment} (h : m.Valid) :
    Moment.ofJson? (Text.bytesOf (momentText m)) = some m := by
  have hitems : items? (Text.bytesOf (momentText m)) =
      some (m.parts.map fun n ↦ Text.bytesOf (toString n)) := by
    rw [bytesOf_momentText]
    refine items?_arrayBytes (by simp [Moment.parts]) isSpace_pad.2.1 isSpace_pad.1 fun item h ↦ ?_
    obtain ⟨n, -, rfl⟩ := List.mem_map.1 h
    exact isValue_toString n
  have hparts : (m.parts.map fun n ↦ Text.bytesOf (toString n)).mapM
      (int? (-0x80000000) 0xFFFFFFFF) = some m.parts := by
    refine mapM_eq_some (List.forall₂_map_left_iff.2 (List.forall₂_same.2 fun n hn ↦ ?_))
    exact int?_bytesOf_toString (Moment.bounds_of_inRange h.1 n hn)
  rw [Moment.ofJson?, list?, hitems, Option.bind_some, hparts, Option.bind_some,
    Moment.ofParts?_parts h]

/-- The texts of all fields are JSON values. -/
theorem isValue_fieldTexts (s : Rollback.State) :
    ∀ text ∈ s.fieldTexts, IsValue (Text.bytesOf text) := by
  have hmoment := isValue_momentText s.recordedAt
  rw [momentText] at hmoment
  simp only [fieldTexts, List.forall_mem_cons, List.not_mem_nil, false_implies, implies_true,
    and_true]
  exact ⟨isValue_repr _, isValue_quote _, isValue_quote _, isValue_quote _,
    (bytesOf_nullable s.accountName).1, (bytesOf_truth _).1, (bytesOf_truth _).1,
    (bytesOf_truth _).1, hmoment⟩

/-- **The document of a state is read back.** -/
theorem ofBytes?_document (h : s.recordedAt.Valid) :
    ofBytes? (Text.bytesOf s.document) = some s := by
  have hmembers : s.members ≠ [] := by simp [members, fieldNames, fieldTexts]
  have hvalues : ∀ m ∈ s.members, InString m.1 ∧ IsValue m.2 := by
    intro m hm
    rw [members, ← List.map_uncurry_zip_eq_zipWith] at hm
    obtain ⟨⟨name, text⟩, hmem, rfl⟩ := List.mem_map.1 hm
    exact ⟨inString_innerBytes name, isValue_fieldTexts s text (List.of_mem_zip hmem).2⟩
  have hnames : s.members.map (fun m ↦ unquote? (quoted m.1)) = fieldNames.map some := by
    simp only [members, fieldNames, fieldTexts, List.zipWith_cons_cons, List.zipWith_nil_left,
      List.map_cons, List.map_nil, unquote?_quoted]
  have hrecord := record?_objectBytes hmembers isSpace_pad.1 isSpace_pad.2.2 hvalues hnames
    (by decide)
  have hdocument : document? (Text.bytesOf s.document) = some (Text.bytesOf s.document) := by
    rw [bytesOf_document]
    exact document?_of_isValue
      (isValue_objectBytes hmembers isSpace_pad.1 isSpace_pad.2.2 hvalues)
  -- Each field is read back from its own text.
  have hversion : nat? 0xFFFFFFFF (Text.bytesOf s.schemaVersion.toNat.repr) =
      some s.schemaVersion.toNat := nat?_bytesOf_repr (Nat.le_of_lt_succ s.schemaVersion.toNat_lt)
  have hstring (text : String) : string? (Text.bytesOf (quote text)) = some text := by
    rw [bytesOf_quote, string?, unquote?_quoted]
  have hfields : s.members.map (fun m ↦ some m.2) =
      s.fieldTexts.map fun text ↦ some (Text.bytesOf text) := by
    simp only [members, fieldNames, fieldTexts, List.zipWith_cons_cons, List.zipWith_nil_left,
      List.map_cons, List.map_nil]
  have hmoment := ofJson?_momentText h
  rw [momentText] at hmoment
  rw [ofBytes?, hdocument, Option.bind_some, ofJson?, bytesOf_document, hrecord, hfields]
  simp only [fieldTexts, List.map_cons, List.map_nil, Option.bind_eq_bind, Option.bind_some,
    Option.pure_def, given, hversion, hstring, Identifier.ofText?_text, AccountClass.ofJson?_quote,
    (bytesOf_nullable s.accountName).2, (bytesOf_truth _).2, hmoment, UInt32.ofNat_toNat]

end Rollback.State

end ServerSetup
