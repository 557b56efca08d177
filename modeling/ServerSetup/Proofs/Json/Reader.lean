import Mathlib.Data.List.Forall2
import Mathlib.Data.List.Nodup
import ServerSetup.Proofs.Json.Quoted

/-!
# Reading written JSON values

What is written is read back: the items of an array, the members of an object, strings with any
characters in them, and whole numbers.

The reader cuts a text into values with the scanner and reads each of them by itself, so it can be
described one level at a time: an array gives the bytes of its items (`items?_eq`), an object the
names and the bytes of its members (`members?_eq`). Spaces are dropped on the way, wherever they
stand. The reader counts down a number while it goes through the items; there are never more items
than bytes, so this number does not run out.

A field of a record is looked up by its name among the members. It may be missing, and then it is
for the record to say whether that is a failure; it may not stand twice. Numbers are read within
bounds, and what the tool writes is within them.
-/

namespace ServerSetup.Json

variable {pad pad' bytes rest spaces : List UInt8} {items : List (List UInt8)} {b : UInt8}

/-! ### Arrays and objects -/

/-- An item is cut off with the spaces around it, up to the next byte that counts. -/
theorem Spaced.scanValue?_eq {item : Spaced} (h : IsValue item.bytes) (hb : Parts b)
    (hspace : isSpace b = false) :
    scanValue? (item.text ++ b :: rest) = some (item.bytes, b :: rest) := by
  have hparts : ∀ b' ∈ (item.behind ++ b :: rest).head?, Parts b' := by
    intro b' hb'
    rcases hbehind : item.behind with - | ⟨b'', behind⟩
    · rw [hbehind] at hb'
      obtain rfl : b = b' := by simpa using hb'
      exact hb
    · rw [hbehind] at hb'
      obtain rfl : b'' = b' := by simpa using hb'
      exact parts_of_isSpace (item.isSpace_behind b'' (hbehind ▸ List.mem_cons_self))
  rw [Spaced.text, List.append_assoc, scanValue?_append h item.isSpace_before hparts,
    skipSpaces_append item.isSpace_behind, skipSpaces_cons hspace]

/-- There are at least as many bytes as items, which is what the fuel of the reader is measured
by. -/
theorem length_le_length_separated (items : List Spaced) :
    items.length ≤ (separated items).length + 1 := by
  induction items with
  | nil => exact Nat.zero_le _
  | cons item items ih =>
    rcases items with - | ⟨item', items⟩
    · simp
    · simp only [separated, List.length_append, List.length_cons] at ih ⊢
      omega

/-- Spaces before the closing bracket are skipped. -/
theorem skipSpaces_closing {closing : UInt8} (hspaces : ∀ b ∈ spaces, isSpace b = true)
    (hclosing : isSpace closing = false) : skipSpaces (spaces ++ [closing]) = [closing] := by
  rw [skipSpaces_append hspaces, skipSpaces_cons hclosing]

/-- Where there are items, the closing bracket is not what comes first. -/
theorem skipSpaces_separated_ne {items : List Spaced} {closing : UInt8} (hne : items ≠ [])
    (hstart : ∀ item ∈ items, ∃ b rest, item.bytes = b :: rest ∧ isSpace b = false ∧ b ≠ closing) :
    skipSpaces (separated items ++ [closing]) ≠ [closing] := by
  obtain ⟨item, hitem, rest, hitems⟩ := separated_eq_of_ne_nil hne
  obtain ⟨b, tail, hbytes, hb, hclose⟩ := hstart item hitem
  rw [hitems, hbytes, List.append_assoc, skipSpaces_append item.isSpace_before, List.append_assoc,
    List.cons_append, skipSpaces_cons hb]
  intro h
  exact hclose (List.cons.inj h).1

/-- Items between brackets are read one after the other. -/
theorem itemsFrom?_separated {fuel : Nat} {items : List Spaced} (hne : items ≠ [])
    (hfuel : items.length ≤ fuel) (hvalues : ∀ item ∈ items, IsValue item.bytes) :
    itemsFrom? fuel (separated items ++ [0x5D]) = some (items.map Spaced.bytes) := by
  induction items generalizing fuel with
  | nil => exact absurd rfl hne
  | cons item items ih =>
    rw [List.forall_mem_cons] at hvalues
    obtain ⟨fuel, rfl⟩ : ∃ n, fuel = n + 1 := Nat.exists_eq_add_one.2 (by simp at hfuel; omega)
    rcases items with - | ⟨item', items⟩
    · rw [separated, itemsFrom?, Spaced.scanValue?_eq hvalues.1 (by decide) (by decide)]
      rfl
    · have hshape : separated (item :: item' :: items) ++ [0x5D] =
          item.text ++ 0x2C :: (separated (item' :: items) ++ [0x5D]) := by
        simp [separated]
      have hrest := ih (List.cons_ne_nil _ _) (Nat.le_of_succ_le_succ hfuel) hvalues.2
      rw [hshape, itemsFrom?, Spaced.scanValue?_eq hvalues.1 (by decide) (by decide)]
      show (itemsFrom? fuel _).map _ = _
      rw [hrest]
      rfl

/-- **The items of an array are read**, whatever spaces are around them. -/
theorem IsArray.items?_eq (h : IsArray items bytes) (hvalues : ∀ item ∈ items, IsValue item) :
    items? bytes = some items := by
  rcases h with ⟨hspaces⟩ | @⟨items, hne⟩
  · rw [items?, if_pos (skipSpaces_closing hspaces (by decide))]
  · rw [List.forall_mem_map] at hvalues
    have hfuel : items.length ≤ (separated items ++ [0x5D]).length := by
      have hlength := length_le_length_separated items
      simp only [List.length_append, List.length_singleton]
      omega
    rw [items?, if_neg (skipSpaces_separated_ne hne fun item h ↦ (hvalues item h).start),
      itemsFrom?_separated hne hfuel hvalues]

/-- A member as it is read: its key up to the colon, and its value up to the next byte. -/
theorem Member.text_eq (m : Member) (rest : List UInt8) :
    m.item.text ++ rest = m.key.text ++ 0x3A :: (m.value.text ++ rest) := by
  simp [Member.item, Spaced.text]

/-- Members between braces are read one after the other, keys with their values. -/
theorem membersFrom?_separated {fuel : Nat} {members : List Member} {names : List String}
    (hne : members ≠ []) (hfuel : members.length ≤ fuel)
    (hmembers : ∀ m ∈ members, IsKey m.key.bytes ∧ IsValue m.value.bytes)
    (hnames : members.map (fun m ↦ unquote? m.key.bytes) = names.map some) :
    membersFrom? fuel (separated (members.map Member.item) ++ [0x7D]) =
      some (names.zip (members.map fun m ↦ m.value.bytes)) := by
  induction members generalizing fuel names with
  | nil => exact absurd rfl hne
  | cons m members ih =>
    rw [List.forall_mem_cons] at hmembers
    obtain ⟨⟨hkey, hvalue⟩, hrest⟩ := hmembers
    obtain ⟨fuel, rfl⟩ : ∃ n, fuel = n + 1 := Nat.exists_eq_add_one.2 (by simp at hfuel; omega)
    obtain ⟨name, names, rfl⟩ : ∃ name rest, names = name :: rest := by
      rcases names with - | ⟨name, names⟩
      · simp at hnames
      · exact ⟨name, names, rfl⟩
    simp only [List.map_cons, List.cons.injEq] at hnames
    obtain ⟨hname, hnames⟩ := hnames
    have hcolon (rest : List UInt8) : scanValue? (m.key.text ++ 0x3A :: rest) =
        some (m.key.bytes, 0x3A :: rest) :=
      Spaced.scanValue?_eq hkey.isValue (by decide) (by decide)
    -- The last member ends at the brace, every other one at a comma.
    rcases members with - | ⟨m', members⟩
    · obtain rfl : names = [] := by simpa using hnames.symm
      have hscan : scanValue? (m.value.text ++ [0x7D]) = some (m.value.bytes, [0x7D]) :=
        Spaced.scanValue?_eq hvalue (by decide) (by decide)
      rw [List.map_cons, List.map_nil, separated, Member.text_eq, membersFrom?, hcolon]
      simp only [hname, hscan]
      rfl
    · have hshape : separated ((m :: m' :: members).map Member.item) ++ [0x7D] = m.item.text ++
          0x2C :: (separated ((m' :: members).map Member.item) ++ [0x7D]) := by
        simp [separated]
      have hscan (rest : List UInt8) : scanValue? (m.value.text ++ 0x2C :: rest) =
          some (m.value.bytes, 0x2C :: rest) :=
        Spaced.scanValue?_eq hvalue (by decide) (by decide)
      have hbehind := ih (List.cons_ne_nil _ _) (Nat.le_of_succ_le_succ hfuel) hrest hnames
      rw [hshape, Member.text_eq, membersFrom?, hcolon]
      simp only [hname, hscan, hbehind]
      rfl

/-- **The members of an object are read**, whatever spaces are around them. -/
theorem IsObject.members?_eq {members : List (List UInt8 × List UInt8)} {names : List String}
    (h : IsObject members bytes) (hmembers : ∀ m ∈ members, IsKey m.1 ∧ IsValue m.2)
    (hnames : members.map (fun m ↦ unquote? m.1) = names.map some) :
    members? bytes = some (names.zip (members.map Prod.snd)) := by
  rcases h with ⟨hspaces⟩ | @⟨members, hne⟩
  · rw [members?, if_pos (skipSpaces_closing hspaces (by decide)), List.map_nil, List.zip_nil_right]
  · rw [List.forall_mem_map] at hmembers
    rw [List.map_map] at hnames ⊢
    have hfuel : members.length ≤ (separated (members.map Member.item) ++ [0x7D]).length := by
      have hlength := length_le_length_separated (members.map Member.item)
      simp only [List.length_append, List.length_singleton, List.length_map] at hlength ⊢
      omega
    have hstart : ∀ item ∈ members.map Member.item,
        ∃ b rest, item.bytes = b :: rest ∧ isSpace b = false ∧ b ≠ 0x7D := by
      refine List.forall_mem_map.2 fun m hm ↦ ?_
      obtain ⟨inner, -, hbytes⟩ : IsKey m.key.bytes := (hmembers m hm).1
      rw [Member.item, hbytes]
      exact ⟨_, _, rfl, by decide, by decide⟩
    rw [members?, if_neg (skipSpaces_separated_ne (by simpa using hne) hstart),
      membersFrom?_separated hne hfuel hmembers hnames]
    rfl

theorem items?_arrayBytes (hitems : items ≠ []) (hpad : ∀ b ∈ pad, isSpace b = true)
    (hpad' : ∀ b ∈ pad', isSpace b = true) (hvalues : ∀ item ∈ items, IsValue item) :
    items? (arrayBytes pad pad' items) = some items :=
  (isArray_arrayBytes hitems hpad hpad').items?_eq hvalues

/-- The members of a written object are read back. -/
theorem members?_objectBytes {members : List (List UInt8 × List UInt8)} {names : List String}
    (hmembers : members ≠ []) (hpad : ∀ b ∈ pad, isSpace b = true)
    (hpad' : ∀ b ∈ pad', isSpace b = true) (hvalues : ∀ m ∈ members, InString m.1 ∧ IsValue m.2)
    (hnames : members.map (fun m ↦ unquote? (quoted m.1)) = names.map some) :
    members? (objectBytes pad pad' members) = some (names.zip (members.map Prod.snd)) := by
  have hread := (isObject_objectBytes hmembers hpad hpad').members?_eq (List.forall_mem_map.2
    fun m hm ↦ ⟨⟨m.1, (hvalues m hm).1, rfl⟩, (hvalues m hm).2⟩) (by rwa [List.map_map])
  rwa [List.map_map] at hread

/-! ### Records -/

theorem mapM_eq_some {α β : Type} {f : α → Option β} {xs : List α} {ys : List β}
    (h : List.Forall₂ (fun x y ↦ f x = some y) xs ys) : xs.mapM f = some ys := by
  induction h with
  | nil => rfl
  | cons hxy _ ih => rw [List.mapM_cons, hxy, ih]; rfl

section field

variable {name other : String} {value : Source} {names : List String} {values : List Source}
  {members : List (String × Source)}

theorem filter_name_eq_nil (h : name ∉ members.map Prod.fst) :
    members.filter (·.1 == name) = [] := by
  refine List.filter_eq_nil_iff.2 fun m hm hname ↦ h ?_
  exact List.mem_map.2 ⟨m, hm, beq_iff_eq.1 hname⟩

theorem field?_of_not_mem (h : name ∉ members.map Prod.fst) : field? members name = some none := by
  rw [field?, filter_name_eq_nil h]

theorem field?_cons_self (h : name ∉ members.map Prod.fst) :
    field? ((name, value) :: members) name = some (some value) := by
  rw [field?, List.filter_cons_of_pos (by simp), filter_name_eq_nil h]

theorem field?_cons_of_ne (h : other ≠ name) :
    field? ((other, value) :: members) name = field? members name := by
  rw [field?, List.filter_cons_of_neg (by simpa using h), field?]

/-- A field is found at its place. -/
theorem field?_zip (hnames : names.Nodup) (hlength : names.length = values.length) :
    List.Forall₂ (fun name value ↦ field? (names.zip values) name = some (some value))
      names values := by
  rw [List.forall₂_iff_get]
  refine ⟨hlength, fun i hi hi' ↦ ?_⟩
  induction names generalizing values i with
  | nil => simp at hi
  | cons name names ih =>
    obtain ⟨hname, hnames⟩ := List.nodup_cons.1 hnames
    rcases values with - | ⟨value, values⟩
    · simp at hi'
    · have hlength' : names.length = values.length := by simpa using hlength
      rcases i with - | i
      · refine field?_cons_self ?_
        change name ∉ (names.zip values).map Prod.fst
        rwa [List.map_fst_zip (Nat.le_of_eq hlength')]
      · have hmem : names.get ⟨i, Nat.lt_of_succ_lt_succ hi⟩ ∈ names := List.get_mem ..
        have hne : name ≠ names.get ⟨i, Nat.lt_of_succ_lt_succ hi⟩ := fun h ↦ hname (h ▸ hmem)
        exact (field?_cons_of_ne hne).trans (ih hnames hlength' i _ _)

/-- The fields of a record that is written as an object, in order. -/
theorem record?_objectBytes {members : List (List UInt8 × List UInt8)}
    (hmembers : members ≠ []) (hpad : ∀ b ∈ pad, isSpace b = true)
    (hpad' : ∀ b ∈ pad', isSpace b = true) (hvalues : ∀ m ∈ members, InString m.1 ∧ IsValue m.2)
    (hnames : members.map (fun m ↦ unquote? (quoted m.1)) = names.map some)
    (hnodup : names.Nodup) :
    record? names (objectBytes pad pad' members) = some (members.map fun m ↦ some m.2) := by
  have hlength : names.length = (members.map Prod.snd).length := by
    simpa using (congrArg List.length hnames).symm
  have hfields := field?_zip hnodup hlength
  rw [record?, show items? (objectBytes pad pad' members) = none from rfl]
  show (members? (objectBytes pad pad' members)).bind _ = _
  rw [members?_objectBytes hmembers hpad hpad' hvalues hnames, Option.bind_some]
  have hall : List.Forall₂
      (fun name found ↦ field? (names.zip (members.map Prod.snd)) name = some found)
      names ((members.map Prod.snd).map some) := List.forall₂_map_right_iff.2 hfields
  rw [mapM_eq_some hall, List.map_map]
  rfl

end field

/-! ### Numbers -/

/-- A digit is one byte with its number. -/
theorem toNat_of_isDigit {c : Char} (h : c.isDigit = true) :
    0x30 ≤ c.toNat ∧ c.toNat ≤ 0x39 ∧ (UInt8.ofNat c.toNat).toNat = c.toNat := by
  obtain ⟨hlow, hhigh⟩ : 0x30 ≤ c.toNat ∧ c.toNat ≤ 0x39 := Char.isDigit_iff_toNat.1 h
  refine ⟨hlow, hhigh, ?_⟩
  rw [UInt8.toNat_ofNat']
  omega

theorem isDigit_of_isDigit {c : Char} (h : c.isDigit = true) :
    isDigit (UInt8.ofNat c.toNat) = true := by
  obtain ⟨hlow, hhigh, hbyte⟩ := toNat_of_isDigit h
  rw [isDigit, Bool.and_eq_true, decide_eq_true_eq, decide_eq_true_eq, UInt8.le_iff_toNat_le,
    UInt8.le_iff_toNat_le, hbyte]
  exact ⟨hlow, hhigh⟩

theorem isDigit_of_mem_toDigits {n : Nat} {c : Char} (h : c ∈ Nat.toDigits 10 n) :
    c.isDigit = true :=
  Nat.isDigit_of_mem_toDigits (by decide) (by decide) h

/-- The digits of a number as bytes. -/
theorem bytesOf_repr (n : Nat) : Text.bytesOf n.repr =
    (Nat.toDigits 10 n).map fun c ↦ UInt8.ofNat c.toNat := by
  rw [Text.bytesOf_eq, Nat.toList_repr, List.map_eq_flatMap]
  refine List.flatMap_congr fun c hc ↦ Text.utf8EncodeChar_of_ascii ?_
  have := toNat_of_isDigit (isDigit_of_mem_toDigits hc)
  omega

/-- The digits of a number are read back. -/
theorem digits?_bytesOf_repr (n : Nat) : digits? (Text.bytesOf n.repr) = some n := by
  have hback : (Text.bytesOf n.repr).map (fun b ↦ Char.ofNat b.toNat) = n.repr.toList := by
    rw [bytesOf_repr, List.map_map, Nat.toList_repr]
    refine (List.map_congr_left fun c hc ↦ ?_).trans (List.map_id _)
    obtain ⟨-, -, hbyte⟩ := toNat_of_isDigit (isDigit_of_mem_toDigits hc)
    rw [Function.comp_apply, hbyte, Char.ofNat_toNat, id]
  rw [digits?, hback, Text.digits?_repr]

/-- The first digit of a number is not zero, unless the number is. -/
theorem toDigits_eq_cons {n : Nat} (hn : n ≠ 0) :
    ∃ c rest, Nat.toDigits 10 n = c :: rest ∧ c ≠ '0' := by
  induction n using Nat.strongRecOn with
  | ind n ih =>
    by_cases hsmall : n < 10
    · have hdigit : ∀ n < 10, n ≠ 0 → n.digitChar ≠ '0' := by decide
      exact ⟨n.digitChar, [], Nat.toDigits_of_lt_base hsmall, hdigit n hsmall hn⟩
    · obtain ⟨c, rest, hrest, hc⟩ := ih (n / 10) (by omega) (by omega)
      refine ⟨c, rest ++ [(n % 10).digitChar], ?_, hc⟩
      rw [Nat.toDigits_of_base_le (by decide) (Nat.le_of_not_lt hsmall), hrest, List.cons_append]

/-- A number is written as the grammar has whole numbers. -/
theorem isWhole_repr (n : Nat) : IsWhole (Text.bytesOf n.repr) := by
  rw [bytesOf_repr]
  by_cases hn : n = 0
  · rw [hn]
    exact .zero
  · obtain ⟨c, rest, hdigits, hc⟩ := toDigits_eq_cons hn
    have hdigit {c : Char} (hc : c ∈ Nat.toDigits 10 n) :
        isDigit (UInt8.ofNat c.toNat) = true :=
      isDigit_of_isDigit (isDigit_of_mem_toDigits hc)
    rw [hdigits] at hdigit ⊢
    refine .digits (hdigit List.mem_cons_self) (fun h ↦ hc ?_) fun b hb ↦ ?_
    · have hc : c.isDigit = true := isDigit_of_mem_toDigits (hdigits ▸ List.mem_cons_self)
      rw [← Char.toNat_inj, ← (toNat_of_isDigit hc).2.2]
      exact congrArg UInt8.toNat h
    · obtain ⟨c, hc, rfl⟩ := List.mem_map.1 hb
      exact hdigit (List.mem_cons_of_mem _ hc)

theorem isValue_repr (n : Nat) : IsValue (Text.bytesOf n.repr) := isValue_whole (isWhole_repr n)

theorem nat?_bytesOf_repr {n bound : Nat} (h : n ≤ bound) :
    nat? bound (Text.bytesOf n.repr) = some n := by
  rw [nat?, digits?_bytesOf_repr]
  exact if_pos (decide_eq_true h)

/-- A number without a sign is read by its digits. -/
theorem int?_of_isWhole {low high : Int} (h : IsWhole bytes) : int? low high bytes =
    ((digits? bytes).map Int.ofNat).filter fun n ↦ low ≤ n ∧ n ≤ high := by
  rcases h with - | ⟨hb, -, -⟩
  · rfl
  · rw [int?]
    intro rest heq
    rw [(List.cons.inj heq).1] at hb
    cases hb

/-- A written integer is one value, with a sign or without. -/
theorem isValue_toString (n : Int) : IsValue (Text.bytesOf (toString n)) := by
  rcases n with n | n
  · exact isValue_repr n
  · show IsValue (Text.bytesOf ("-" ++ (n + 1).repr))
    rw [Text.bytesOf_append]
    exact isValue_minus (isWhole_repr (n + 1))

/-- **A whole number within the bounds is read back.** -/
theorem int?_bytesOf_toString {n low high : Int} (h : low ≤ n ∧ n ≤ high) :
    int? low high (Text.bytesOf (toString n)) = some n := by
  have hvalue : int? low high (Text.bytesOf (toString n)) =
      (some n).filter fun n ↦ low ≤ n ∧ n ≤ high := by
    rcases n with n | n
    · exact (int?_of_isWhole (isWhole_repr n)).trans (by rw [digits?_bytesOf_repr]; rfl)
    · have hbytes : Text.bytesOf (toString (Int.negSucc n)) =
          0x2D :: Text.bytesOf (n + 1).repr := Text.bytesOf_append "-" (n + 1).repr
      rw [hbytes, int?, digits?_bytesOf_repr]
      rfl
  rw [hvalue]
  exact if_pos (decide_eq_true h)

end ServerSetup.Json
