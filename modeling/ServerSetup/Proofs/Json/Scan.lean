import ServerSetup.Json.Reader

/-!
# Where written JSON values end

The scanner finds the end of every value as it is written: of strings, numbers, words, arrays and
objects (`IsValue`), whatever stands behind it, as long as that does not continue a number. So a
value at the front of a text is cut off as a whole (`scanValue?_append`). Strings and numbers are
taken as the grammar has them, and items and members with any spaces around them (`Spaced`).

The scanner is an automaton: it has a place, which tells what may come next, and a stack of open
brackets. `Passes` says that it gets from one place and stack to another with some bytes, and
composes like a path. A text is a value if the scanner passes it from the start of a value to a
place where a value can be complete, inside any brackets; this is the invariant of the nesting,
since an array is then passed item by item, with one more bracket on the stack.

Numbers are the reason for the word *can*. The end of a number is only seen by what stands behind
it, so a value may end at several places (`Ends`), and the byte behind it has to be one that does
not go on with a number (`Parts`). Commas, brackets and spaces are of this kind.
-/

namespace ServerSetup.Json

variable {place place' place'' : Place} {brackets brackets' brackets'' : List Bracket}
  {bytes bytes' spaces read rest : List UInt8} {b : UInt8}

/-! ### Bytes that the scanner passes -/

/-- The scanner gets from one place to another with these bytes. -/
def Passes (place : Place) (brackets : List Bracket) (bytes : List UInt8) (place' : Place)
    (brackets' : List Bracket) : Prop :=
  ∀ read rest, scanFrom place brackets read (bytes ++ rest) =
    scanFrom place' brackets' (bytes.reverse ++ read) rest

/-- One step of the scanner. -/
theorem scanFrom_cons (hstep : step place brackets b = some (place', brackets')) :
    scanFrom place brackets read (b :: rest) = scanFrom place' brackets' (b :: read) rest := by
  have hgoes : (brackets.isEmpty && place == .afterValue) = false := by
    rcases brackets with - | ⟨bracket, brackets⟩
    · rw [List.isEmpty_nil, Bool.true_and, beq_eq_false_iff_ne]
      rintro rfl
      cases hstep
    · rfl
  rw [scanFrom, hgoes, hstep]
  rfl

namespace Passes

theorem refl : Passes place brackets [] place brackets := fun _ _ ↦ rfl

theorem trans (h : Passes place brackets bytes place' brackets')
    (h' : Passes place' brackets' bytes' place'' brackets'') :
    Passes place brackets (bytes ++ bytes') place'' brackets'' := by
  intro read rest
  rw [List.append_assoc, h, h', List.reverse_append, List.append_assoc]

theorem single (h : step place brackets b = some (place', brackets')) :
    Passes place brackets [b] place' brackets' := fun _ _ ↦ scanFrom_cons h

theorem cons (h : step place brackets b = some (place', brackets'))
    (h' : Passes place' brackets' bytes place'' brackets'') :
    Passes place brackets (b :: bytes) place'' brackets'' :=
  (single h).trans h'

/-- Bytes that leave the scanner where it is. -/
theorem of_forall (h : ∀ b ∈ bytes, step place brackets b = some (place, brackets)) :
    Passes place brackets bytes place brackets := by
  induction bytes with
  | nil => exact refl
  | cons b bytes ih =>
    rw [List.forall_mem_cons] at h
    exact cons h.1 (ih h.2)

end Passes

/-! ### Values -/

/-- A value can be complete at this place. -/
def Ends (place : Place) : Prop := place = .afterValue ∨ place.endsNumber = true

instance : Decidable (Ends place) := inferInstanceAs (Decidable (_ ∨ _))

/-- A byte that does not go on with a number. -/
def Parts (b : UInt8) : Prop := isDigit b = false ∧ b ≠ 0x2E ∧ b ≠ 0x65 ∧ b ≠ 0x45

instance : Decidable (Parts b) := inferInstanceAs (Decidable (_ ∧ _))

/-- The bytes of one value: the scanner passes them inside any brackets. -/
structure IsValue (bytes : List UInt8) : Prop where
  start : ∃ b rest, bytes = b :: rest ∧ isSpace b = false ∧ b ≠ 0x5D
  passes : ∀ brackets, ∃ place, Ends place ∧ Passes .value brackets bytes place brackets

theorem parts_of_isSpace (h : isSpace b = true) : Parts b := by
  simp only [isSpace, Bool.or_eq_true, beq_iff_eq] at h
  obtain ((rfl | rfl) | rfl) | rfl := h <;> decide

/-- Where a value can be complete, a byte that does not go on with a number is what stands behind
it. -/
theorem step_of_ends (hends : Ends place) (hb : Parts b) :
    step place brackets b = stepAfterValue brackets b := by
  obtain ⟨hdigit, hpoint, he, hE⟩ := hb
  obtain rfl | hends := hends
  · rfl
  · cases place <;> simp [Place.endsNumber] at hends <;> simp [step, hdigit, hpoint, he, hE]

/-- Behind a value at the top the scanner stops. -/
theorem scanFrom_of_ends (hends : Ends place) (hrest : ∀ b ∈ rest.head?, Parts b) :
    scanFrom place [] read rest = some (read.reverse, rest) := by
  rcases rest with - | ⟨b, rest⟩
  · obtain rfl | hends := hends
    · rfl
    · simp [scanFrom, hends]
  · have hstep : step place [] b = none := step_of_ends hends (hrest b rfl)
    rw [scanFrom, hstep]
    obtain rfl | hends := hends
    · rfl
    · simp [hends]

theorem skipSpaces_append (hspaces : ∀ b ∈ spaces, isSpace b = true) :
    skipSpaces (spaces ++ rest) = skipSpaces rest :=
  List.dropWhile_append_of_pos hspaces

theorem skipSpaces_cons (hb : isSpace b = false) : skipSpaces (b :: rest) = b :: rest := by
  rw [skipSpaces, List.dropWhile_cons, hb]
  rfl

/-- **A value at the front of a text is cut off**, with the spaces around it. -/
theorem scanValue?_append (hvalue : IsValue bytes) (hspaces : ∀ b ∈ spaces, isSpace b = true)
    (hrest : ∀ b ∈ rest.head?, Parts b) :
    scanValue? (spaces ++ bytes ++ rest) = some (bytes, skipSpaces rest) := by
  obtain ⟨b, tail, rfl, hb, -⟩ := hvalue.start
  obtain ⟨place, hends, hpasses⟩ := hvalue.passes []
  rw [scanValue?, List.append_assoc, skipSpaces_append hspaces, List.cons_append,
    skipSpaces_cons hb, ← List.cons_append, hpasses, scanFrom_of_ends hends hrest]
  simp

/-! ### Words -/

/-- A word is passed letter by letter. -/
theorem passes_word (due : List UInt8) (hdue : due ≠ []) :
    Passes (.word due) brackets due .afterValue brackets := by
  induction due with
  | nil => exact absurd rfl hdue
  | cons b due ih =>
    rcases due with - | ⟨b', due⟩
    · exact .single (by simp [step])
    · exact .cons (by simp [step]) (ih (List.cons_ne_nil b' due))

theorem isValue_null : IsValue [0x6E, 0x75, 0x6C, 0x6C] where
  start := ⟨_, _, rfl, by decide, by decide⟩
  passes _ := ⟨.afterValue, .inl rfl, .cons rfl (passes_word _ (List.cons_ne_nil _ _))⟩

theorem isValue_true : IsValue [0x74, 0x72, 0x75, 0x65] where
  start := ⟨_, _, rfl, by decide, by decide⟩
  passes _ := ⟨.afterValue, .inl rfl, .cons rfl (passes_word _ (List.cons_ne_nil _ _))⟩

theorem isValue_false : IsValue [0x66, 0x61, 0x6C, 0x73, 0x65] where
  start := ⟨_, _, rfl, by decide, by decide⟩
  passes _ := ⟨.afterValue, .inl rfl, .cons rfl (passes_word _ (List.cons_ne_nil _ _))⟩

/-! ### Strings -/

/-- Bytes that may stand in a string: the scanner stays in it. -/
def InString (bytes : List UInt8) : Prop :=
  ∀ isKey brackets, Passes (.string isKey) brackets bytes (.string isKey) brackets

/-- What the grammar admits between quotes: bytes that stand for themselves, escapes of one letter,
and escapes of four hexadecimal digits. -/
inductive InnerText : List UInt8 → Prop
  | nil : InnerText []
  | plain {b : UInt8} {rest : List UInt8} (hlow : ¬ b < 0x20) (hquote : b ≠ 0x22)
      (hbackslash : b ≠ 0x5C) (hrest : InnerText rest) : InnerText (b :: rest)
  | letter {b : UInt8} {rest : List UInt8}
      (hb : b ∈ [0x22, 0x5C, 0x2F, 0x62, 0x66, 0x6E, 0x72, 0x74]) (hrest : InnerText rest) :
      InnerText (0x5C :: b :: rest)
  | number {digits rest : List UInt8} (hlength : digits.length = 4)
      (hdigits : ∀ b ∈ digits, isHexDigit b = true) (hrest : InnerText rest) :
      InnerText (0x5C :: 0x75 :: digits ++ rest)

/-- What may stand in a string may stand there side by side. -/
theorem InnerText.append (h : InnerText bytes) (h' : InnerText bytes') :
    InnerText (bytes ++ bytes') := by
  induction h with
  | nil => exact h'
  | plain hlow hquote hbackslash _ ih => exact .plain hlow hquote hbackslash ih
  | letter hb _ ih => exact .letter hb ih
  | @number digits rest hlength hdigits _ ih =>
    have hshape : 0x5C :: 0x75 :: digits ++ rest ++ bytes' =
        0x5C :: 0x75 :: digits ++ (rest ++ bytes') := List.append_assoc ..
    rw [hshape]
    exact .number hlength hdigits ih

/-- As many hexadecimal digits as are due. -/
theorem passes_hex {digits : List UInt8} (hne : digits ≠ [])
    (hdigits : ∀ b ∈ digits, isHexDigit b = true) (isKey : Bool) :
    Passes (.hex digits.length isKey) brackets digits (.string isKey) brackets := by
  induction digits with
  | nil => exact absurd rfl hne
  | cons b digits ih =>
    rw [List.forall_mem_cons] at hdigits
    rcases digits with - | ⟨b', digits⟩
    · exact .single (by simp [step, hdigits.1])
    · exact .cons (by simp [step, hdigits.1]) (ih (List.cons_ne_nil _ _) hdigits.2)

/-- **The scanner passes all that may stand between quotes.** -/
theorem InnerText.inString (h : InnerText bytes) : InString bytes := by
  intro isKey brackets
  induction h with
  | nil => exact .refl
  | plain hlow hquote hbackslash _ ih =>
    exact .cons (by simp [step, hlow, hquote, hbackslash]) ih
  | @letter b _ hb _ ih =>
    have hu : (b == 0x75) = false := by
      rw [beq_eq_false_iff_ne]
      rintro rfl
      exact absurd hb (by decide)
    have hstep : step (.escape isKey) brackets b = some (.string isKey, brackets) := by
      rw [step, hu, List.contains_iff_mem.2 hb]
      rfl
    exact .cons rfl (.cons hstep ih)
  | @number digits _ hlength hdigits _ ih =>
    have hhex : Passes (.hex digits.length isKey) brackets digits (.string isKey) brackets :=
      passes_hex (List.ne_nil_of_length_pos (hlength ▸ by decide)) hdigits isKey
    rw [hlength] at hhex
    exact (Passes.cons rfl (.cons rfl hhex)).trans ih

/-- The bytes of a string with its quotes. -/
def quoted (inner : List UInt8) : List UInt8 := 0x22 :: inner ++ [0x22]

theorem passes_quoted {inner : List UInt8} (h : InString inner) (isKey : Bool) :
    Passes (.string isKey) brackets (inner ++ [0x22]) (afterString isKey) brackets :=
  (h isKey brackets).trans (.single rfl)

theorem isValue_quoted {inner : List UInt8} (h : InString inner) : IsValue (quoted inner) where
  start := ⟨_, _, rfl, by decide, by decide⟩
  passes _ := ⟨.afterValue, .inl rfl, .cons rfl (passes_quoted h false)⟩

/-! ### Numbers -/

/-- A row of digits that starts with another digit than zero, or is just the zero. -/
inductive IsWhole : List UInt8 → Prop
  | zero : IsWhole [0x30]
  | digits {b : UInt8} {rest : List UInt8} (hb : isDigit b = true) (hzero : b ≠ 0x30)
      (hrest : ∀ b ∈ rest, isDigit b = true) : IsWhole (b :: rest)

theorem beq_eq_false_of_isDigit {c : UInt8} (hb : isDigit b = true) (hc : isDigit c = false) :
    (b == c) = false := by
  rw [beq_eq_false_iff_ne]
  rintro rfl
  rw [hb] at hc
  cases hc

theorem isSpace_of_isDigit (hb : isDigit b = true) : isSpace b = false := by
  simp only [isSpace, beq_eq_false_of_isDigit hb (c := 0x20) rfl,
    beq_eq_false_of_isDigit hb (c := 0x09) rfl, beq_eq_false_of_isDigit hb (c := 0x0A) rfl,
    beq_eq_false_of_isDigit hb (c := 0x0D) rfl, Bool.or_false]

/-- A digit other than zero starts a number. -/
theorem startValue_of_isDigit (hb : isDigit b = true) (hzero : b ≠ 0x30) :
    startValue brackets b = some (.whole, brackets) := by
  have hzero' : (b == 0x30) = false := beq_eq_false_iff_ne.2 hzero
  simp only [startValue, beq_eq_false_of_isDigit hb (c := 0x22) rfl,
    beq_eq_false_of_isDigit hb (c := 0x5B) rfl, beq_eq_false_of_isDigit hb (c := 0x7B) rfl,
    beq_eq_false_of_isDigit hb (c := 0x2D) rfl, hzero', hb, Bool.false_eq_true, if_false, if_true]

/-- The scanner passes a row of digits, from the start of a value or behind a minus sign. -/
theorem IsWhole.passes (h : IsWhole bytes) (start : Place) (brackets : List Bracket)
    (hzero : step start brackets 0x30 = some (.zero, brackets))
    (hdigit : ∀ b, isDigit b = true → b ≠ 0x30 → step start brackets b = some (.whole, brackets)) :
    ∃ place, (place = .zero ∨ place = .whole) ∧ Passes start brackets bytes place brackets := by
  rcases h with - | ⟨hb, hne, hrest⟩
  · exact ⟨.zero, .inl rfl, .single hzero⟩
  · refine ⟨.whole, .inr rfl, .cons (hdigit _ hb hne) (.of_forall fun b hb ↦ ?_)⟩
    rw [step, hrest b hb]
    rfl

/-- At least one digit, and nothing else. -/
structure IsDigits (bytes : List UInt8) : Prop where
  ne_nil : bytes ≠ []
  forall_isDigit : ∀ b ∈ bytes, isDigit b = true

/-- Behind the whole part of a number there may be a point with digits. -/
inductive FractionText : List UInt8 → Prop
  | none : FractionText []
  | point {digits : List UInt8} (h : IsDigits digits) : FractionText (0x2E :: digits)

/-- At the end of a number there may be an exponent, with or without a sign. -/
inductive ExponentText : List UInt8 → Prop
  | none : ExponentText []
  | letter {letter : UInt8} {sign digits : List UInt8} (hletter : letter = 0x65 ∨ letter = 0x45)
      (hsign : sign = [] ∨ sign = [0x2B] ∨ sign = [0x2D]) (h : IsDigits digits) :
      ExponentText (letter :: (sign ++ digits))

/-- The bytes of a number. -/
inductive NumberText : List UInt8 → Prop
  | parts {sign whole fraction exponent : List UInt8} (hsign : sign = [] ∨ sign = [0x2D])
      (hwhole : IsWhole whole) (hfraction : FractionText fraction)
      (hexponent : ExponentText exponent) : NumberText (sign ++ whole ++ (fraction ++ exponent))

/-- The scanner passes digits where the first one leads to a place that digits do not leave. -/
theorem IsDigits.passes (h : IsDigits bytes)
    (hfirst : ∀ b, isDigit b = true → step place brackets b = some (place', brackets'))
    (hdigit : ∀ b, isDigit b = true → step place' brackets' b = some (place', brackets')) :
    Passes place brackets bytes place' brackets' := by
  obtain ⟨b, rest, rfl⟩ := List.exists_cons_of_ne_nil h.ne_nil
  have hdigits := List.forall_mem_cons.1 h.forall_isDigit
  exact .cons (hfirst b hdigits.1) (.of_forall fun b hb ↦ hdigit b (hdigits.2 b hb))

/-- The scanner passes a fraction, or none. -/
theorem FractionText.passes (h : FractionText bytes) (brackets : List Bracket)
    (hplace : place = .zero ∨ place = .whole) :
    ∃ place', (place' = .zero ∨ place' = .whole ∨ place' = .fraction) ∧
      Passes place brackets bytes place' brackets := by
  rcases h with - | ⟨hdigits⟩
  · exact ⟨place, hplace.imp_right .inl, .refl⟩
  · have hpoint : step place brackets 0x2E = some (.point, brackets) := by
      obtain rfl | rfl := hplace <;> rfl
    exact ⟨.fraction, .inr (.inr rfl), .cons hpoint (hdigits.passes
      (fun b hb ↦ by simp [step, hb]) fun b hb ↦ by simp [step, hb])⟩

/-- The scanner passes an exponent, or none, and then the number can be complete. -/
theorem ExponentText.passes (h : ExponentText bytes) (brackets : List Bracket)
    (hplace : place = .zero ∨ place = .whole ∨ place = .fraction) :
    ∃ place', Ends place' ∧ Passes place brackets bytes place' brackets := by
  rcases h with - | @⟨letter, sign, digits, hletter, hsign, hdigits⟩
  · exact ⟨place, .inr (by obtain rfl | rfl | rfl := hplace <;> rfl), .refl⟩
  · refine ⟨.exponentDigits, .inr rfl, ?_⟩
    have hfirst (b : UInt8) (hb : isDigit b = true) :
        step .exponent brackets b = some (.exponentDigits, brackets) := by
      simp only [step, beq_eq_false_of_isDigit hb (c := 0x2B) rfl,
        beq_eq_false_of_isDigit hb (c := 0x2D) rfl, hb, Bool.or_self, Bool.false_eq_true, if_false,
        if_true]
    have hmore (b : UInt8) (hb : isDigit b = true) :
        step .exponentDigits brackets b = some (.exponentDigits, brackets) := by
      simp [step, hb]
    have hbehind : Passes .exponentSign brackets _ .exponentDigits brackets :=
      hdigits.passes (fun b hb ↦ by simp [step, hb]) hmore
    have hstep : step place brackets letter = some (.exponent, brackets) := by
      obtain rfl | rfl := hletter <;> obtain rfl | rfl | rfl := hplace <;> rfl
    refine .cons hstep ?_
    obtain rfl | rfl | rfl := hsign
    · exact hdigits.passes hfirst hmore
    · exact .cons rfl hbehind
    · exact .cons rfl hbehind

/-- **The scanner finds the end of a number.** -/
theorem NumberText.isValue (h : NumberText bytes) : IsValue bytes := by
  obtain @⟨sign, whole, fraction, exponent, hsign, hwhole, hfraction, hexponent⟩ := h
  have hpasses (start : Place) (brackets : List Bracket)
      (hzero : step start brackets 0x30 = some (.zero, brackets))
      (hdigit : ∀ b, isDigit b = true → b ≠ 0x30 →
        step start brackets b = some (.whole, brackets)) :
      ∃ place, Ends place ∧
        Passes start brackets (whole ++ (fraction ++ exponent)) place brackets := by
    obtain ⟨place, hplace, hpasses⟩ := hwhole.passes start brackets hzero hdigit
    obtain ⟨place', hplace', hpasses'⟩ := hfraction.passes brackets hplace
    obtain ⟨place'', hends, hpasses''⟩ := hexponent.passes brackets hplace'
    exact ⟨place'', hends, hpasses.trans (hpasses'.trans hpasses'')⟩
  obtain rfl | rfl := hsign
  · constructor
    · rcases hwhole with - | ⟨hb, -, -⟩
      · exact ⟨_, _, rfl, by decide, by decide⟩
      · exact ⟨_, _, rfl, isSpace_of_isDigit hb,
          beq_eq_false_iff_ne.1 (beq_eq_false_of_isDigit hb rfl)⟩
    · exact fun brackets ↦ hpasses .value brackets rfl fun b hb hne ↦ by
        rw [step, isSpace_of_isDigit hb, startValue_of_isDigit hb hne]
        rfl
  · refine ⟨⟨_, _, rfl, by decide, by decide⟩, fun brackets ↦ ?_⟩
    obtain ⟨place, hends, hpasses⟩ := hpasses .minus brackets rfl fun b hb hne ↦ by
      rw [step, beq_eq_false_iff_ne.2 hne, hb]
      rfl
    exact ⟨place, hends, .cons rfl hpasses⟩

theorem isValue_whole (h : IsWhole bytes) : IsValue bytes := by
  have hvalue := (NumberText.parts (.inl rfl) h .none .none).isValue
  rwa [List.nil_append, List.append_nil, List.append_nil] at hvalue

theorem isValue_minus (h : IsWhole bytes) : IsValue (0x2D :: bytes) := by
  have hvalue := (NumberText.parts (.inr rfl) h .none .none).isValue
  rwa [List.singleton_append, List.append_nil, List.append_nil] at hvalue

/-! ### Lists between brackets -/

/-- Bytes with spaces around them. -/
structure Spaced where
  before : List UInt8
  bytes : List UInt8
  behind : List UInt8
  isSpace_before : ∀ b ∈ before, isSpace b = true
  isSpace_behind : ∀ b ∈ behind, isSpace b = true

/-- The bytes with the spaces. -/
def Spaced.text (item : Spaced) : List UInt8 := item.before ++ item.bytes ++ item.behind

theorem isSpace_nil : ∀ b ∈ ([] : List UInt8), isSpace b = true := List.forall_mem_nil _

theorem isSpace_blank : ∀ b ∈ [(0x20 : UInt8)], isSpace b = true := List.forall_mem_singleton.2 rfl

/-- Bytes without spaces around them. -/
def Spaced.bare (bytes : List UInt8) : Spaced := ⟨[], bytes, [], isSpace_nil, isSpace_nil⟩

@[simp] theorem Spaced.text_bare (bytes : List UInt8) : (Spaced.bare bytes).text = bytes :=
  List.append_nil bytes

/-- A text is one value with spaces around it. -/
theorem document?_text {item : Spaced} (h : IsValue item.bytes) :
    document? item.text = some item.bytes := by
  have hparts : ∀ b ∈ item.behind.head?, Parts b := fun b hb ↦
    parts_of_isSpace (item.isSpace_behind b (List.mem_of_mem_head? hb))
  have hbehind : skipSpaces (item.behind ++ []) = skipSpaces [] :=
    skipSpaces_append item.isSpace_behind
  rw [List.append_nil] at hbehind
  rw [document?, Spaced.text, scanValue?_append h item.isSpace_before hparts, hbehind]
  rfl

theorem document?_of_isValue (h : IsValue bytes) : document? bytes = some bytes := by
  have htext := @document?_text (.bare bytes) h
  rwa [Spaced.text_bare] at htext

/-- What stands between brackets: items with commas behind all but the last. -/
def separated : List Spaced → List UInt8
  | [] => []
  | [item] => item.text
  | item :: items => item.text ++ 0x2C :: separated items

variable {items : List Spaced}

/-- Behind an item there may be spaces before the next byte that counts. -/
theorem passes_behind (hends : Ends place) (hspaces : ∀ b ∈ spaces, isSpace b = true)
    (hbrackets : brackets ≠ []) (hb : Parts b)
    (hstep : stepAfterValue brackets b = some (place', brackets')) :
    Passes place brackets (spaces ++ [b]) place' brackets' := by
  have hspace {b : UInt8} (hb : isSpace b = true) :
      stepAfterValue brackets b = some (.afterValue, brackets) := by
    rcases brackets with - | ⟨bracket, brackets⟩
    · exact absurd rfl hbrackets
    · simp only [stepAfterValue, hb, if_true]
  rcases spaces with - | ⟨b', spaces⟩
  · exact .single ((step_of_ends hends hb).trans hstep)
  · rw [List.forall_mem_cons] at hspaces
    have hrest : Passes .afterValue brackets spaces .afterValue brackets :=
      .of_forall fun b hb ↦ hspace (hspaces.2 b hb)
    exact .cons ((step_of_ends hends (parts_of_isSpace hspaces.1)).trans (hspace hspaces.1))
      (hrest.trans (.single hstep))

/-- The scanner passes the items of a bracket when it passes each of them. -/
theorem passes_separated {first : Place} {bracket : Bracket} {closing : UInt8} (hitems : items ≠ [])
    (hspace : ∀ b, isSpace b = true →
      step first (bracket :: brackets) b = some (first, bracket :: brackets))
    (hitem : ∀ item ∈ items, ∃ place, Ends place ∧
      Passes first (bracket :: brackets) item.bytes place (bracket :: brackets))
    (hcomma : stepAfterValue (bracket :: brackets) 0x2C = some (first, bracket :: brackets))
    (hclosing : Parts closing)
    (hclose : stepAfterValue (bracket :: brackets) closing = some (.afterValue, brackets)) :
    Passes first (bracket :: brackets) (separated items ++ [closing]) .afterValue brackets := by
  induction items with
  | nil => exact absurd rfl hitems
  | cons item items ih =>
    rw [List.forall_mem_cons] at hitem
    obtain ⟨⟨place, hends, hpasses⟩, hrest⟩ := hitem
    have hbefore : Passes first (bracket :: brackets) item.before first (bracket :: brackets) :=
      .of_forall fun b hb ↦ hspace b (item.isSpace_before b hb)
    have hfront := hbefore.trans hpasses
    -- The last item is left by the closing bracket, every other one by a comma.
    rcases items with - | ⟨item', items⟩
    · rw [separated, Spaced.text, List.append_assoc]
      exact hfront.trans
        (passes_behind hends item.isSpace_behind (List.cons_ne_nil _ _) hclosing hclose)
    · have hbehind := ih (List.cons_ne_nil _ _) hrest
      have hshape : separated (item :: item' :: items) ++ [closing] = item.before ++ item.bytes ++
          (item.behind ++ [0x2C] ++ (separated (item' :: items) ++ [closing])) := by
        simp [separated, Spaced.text]
      rw [hshape]
      exact hfront.trans ((passes_behind hends item.isSpace_behind (List.cons_ne_nil _ _)
        (by decide) hcomma).trans hbehind)

/-- Between the brackets stands an item first. -/
theorem separated_eq_of_ne_nil (h : items ≠ []) : ∃ item ∈ items, ∃ rest,
    separated items = item.before ++ (item.bytes ++ rest) := by
  rcases items with - | ⟨item, - | ⟨item', items⟩⟩
  · exact absurd rfl h
  · exact ⟨item, List.mem_cons_self, item.behind, by simp [separated, Spaced.text]⟩
  · exact ⟨item, List.mem_cons_self, item.behind ++ 0x2C :: separated (item' :: items), by
      simp [separated, Spaced.text]⟩

/-- Right behind the opening bracket the scanner does the same as behind a comma, unless the closing
bracket comes. -/
theorem Passes.of_open {start first : Place} (hspaces : ∀ b ∈ spaces, isSpace b = true)
    (hstart : ∀ b, isSpace b = true → step start brackets b = some (start, brackets))
    (hfirst : ∀ b, isSpace b = true → step first brackets b = some (first, brackets))
    (hstep : step start brackets b = step first brackets b)
    (hends : ¬ Ends start ∧ ¬ Ends first)
    (h : Passes first brackets (spaces ++ b :: bytes) place' brackets') :
    Passes start brackets (spaces ++ b :: bytes) place' brackets' := by
  have hscan (read rest : List UInt8) : scanFrom start brackets read (b :: rest) =
      scanFrom first brackets read (b :: rest) := by
    simp only [Ends, not_or, Bool.not_eq_true] at hends
    simp only [scanFrom, hstep, hends, beq_eq_false_iff_ne.2 hends.1.1,
      beq_eq_false_iff_ne.2 hends.2.1]
  intro read rest
  rw [← h read rest, List.append_assoc, Passes.of_forall fun b hb ↦ hstart b (hspaces b hb),
    Passes.of_forall fun b hb ↦ hfirst b (hspaces b hb), List.cons_append, hscan]

/-! ### Arrays -/

theorem step_value_space (b : UInt8) (hb : isSpace b = true) :
    step .value brackets b = some (.value, brackets) := if_pos hb

theorem step_valueOrEnd_space (b : UInt8) (hb : isSpace b = true) :
    step .valueOrEnd brackets b = some (.valueOrEnd, brackets) := if_pos hb

/-- The bytes of an array with these items. -/
inductive IsArray : List (List UInt8) → List UInt8 → Prop
  | empty {spaces : List UInt8} (hspaces : ∀ b ∈ spaces, isSpace b = true) :
    IsArray [] (0x5B :: (spaces ++ [0x5D]))
  | items {items : List Spaced} (hne : items ≠ []) :
    IsArray (items.map Spaced.bytes) (0x5B :: (separated items ++ [0x5D]))

/-- **The scanner finds the end of an array.** -/
theorem IsArray.isValue {values : List (List UInt8)} (h : IsArray values bytes)
    (hvalues : ∀ value ∈ values, IsValue value) : IsValue bytes := by
  rcases h with ⟨hspaces⟩ | @⟨items, hne⟩
  · refine ⟨⟨_, _, rfl, by decide, by decide⟩, fun brackets ↦ ⟨.afterValue, .inl rfl, .cons rfl ?_⟩⟩
    exact (Passes.of_forall fun b hb ↦ step_valueOrEnd_space b (hspaces b hb)).trans (.single rfl)
  · rw [List.forall_mem_map] at hvalues
    refine ⟨⟨_, _, rfl, by decide, by decide⟩, fun brackets ↦ ⟨.afterValue, .inl rfl, .cons rfl ?_⟩⟩
    have hinside : Passes .value (.array :: brackets) (separated items ++ [0x5D]) .afterValue
        brackets :=
      passes_separated hne step_value_space (fun item h ↦ (hvalues item h).passes _) rfl
        (by decide) rfl
    obtain ⟨item, hitem, rest, hitems⟩ := separated_eq_of_ne_nil hne
    obtain ⟨b, tail, hbytes, hb, hclose⟩ := (hvalues item hitem).start
    rw [hitems, hbytes, List.append_assoc, List.append_assoc, List.cons_append] at hinside ⊢
    refine .of_open item.isSpace_before step_valueOrEnd_space step_value_space ?_ (by decide)
      hinside
    rw [step, step, hb, beq_eq_false_iff_ne.2 hclose]
    rfl

/-! ### Objects -/

theorem step_key_space (b : UInt8) (hb : isSpace b = true) :
    step .key brackets b = some (.key, brackets) := if_pos hb

theorem step_keyOrEnd_space (b : UInt8) (hb : isSpace b = true) :
    step .keyOrEnd brackets b = some (.keyOrEnd, brackets) := if_pos hb

/-- A key and a value, with spaces around each. -/
structure Member where
  key : Spaced
  value : Spaced

/-- A member as one item, with what stands between its key and its value. -/
def Member.item (m : Member) : Spaced where
  before := m.key.before
  bytes := m.key.bytes ++ m.key.behind ++ 0x3A :: (m.value.before ++ m.value.bytes)
  behind := m.value.behind
  isSpace_before := m.key.isSpace_before
  isSpace_behind := m.value.isSpace_behind

/-- The bytes of an object with these keys and values. -/
inductive IsObject : List (List UInt8 × List UInt8) → List UInt8 → Prop
  | empty {spaces : List UInt8} (hspaces : ∀ b ∈ spaces, isSpace b = true) :
    IsObject [] (0x7B :: (spaces ++ [0x7D]))
  | members {members : List Member} (hne : members ≠ []) :
    IsObject (members.map fun m ↦ (m.key.bytes, m.value.bytes))
      (0x7B :: (separated (members.map Member.item) ++ [0x7D]))

/-- The bytes of a key: a string with its quotes. -/
def IsKey (bytes : List UInt8) : Prop := ∃ inner, InString inner ∧ bytes = quoted inner

theorem IsKey.isValue (h : IsKey bytes) : IsValue bytes := by
  obtain ⟨inner, hinner, rfl⟩ := h
  exact isValue_quoted hinner

/-- The scanner passes a member: its key, the colon and its value. -/
theorem Member.passes_item {m : Member} (hkey : IsKey m.key.bytes)
    (hvalue : IsValue m.value.bytes) : ∃ place, Ends place ∧
      Passes .key (.object :: brackets) m.item.bytes place (.object :: brackets) := by
  obtain ⟨inner, hinner, hbytes⟩ := hkey
  obtain ⟨place, hends, hpasses⟩ := hvalue.passes (.object :: brackets)
  have hquoted : Passes .key (.object :: brackets) m.key.bytes .colon (.object :: brackets) := by
    rw [hbytes]
    exact .cons rfl (passes_quoted hinner true)
  have hbehind : Passes .colon (.object :: brackets) m.key.behind .colon (.object :: brackets) :=
    .of_forall fun b hb ↦ if_pos (m.key.isSpace_behind b hb)
  have hbefore : Passes .value (.object :: brackets) m.value.before .value (.object :: brackets) :=
    .of_forall fun b hb ↦ step_value_space b (m.value.isSpace_before b hb)
  exact ⟨place, hends, (hquoted.trans hbehind).trans (.cons rfl (hbefore.trans hpasses))⟩

/-- **The scanner finds the end of an object.** -/
theorem IsObject.isValue {members : List (List UInt8 × List UInt8)} (h : IsObject members bytes)
    (hmembers : ∀ m ∈ members, IsKey m.1 ∧ IsValue m.2) : IsValue bytes := by
  rcases h with ⟨hspaces⟩ | @⟨members, hne⟩
  · refine ⟨⟨_, _, rfl, by decide, by decide⟩, fun brackets ↦ ⟨.afterValue, .inl rfl, .cons rfl ?_⟩⟩
    exact (Passes.of_forall fun b hb ↦ step_keyOrEnd_space b (hspaces b hb)).trans (.single rfl)
  · rw [List.forall_mem_map] at hmembers
    refine ⟨⟨_, _, rfl, by decide, by decide⟩, fun brackets ↦ ⟨.afterValue, .inl rfl, .cons rfl ?_⟩⟩
    have hne' : members.map Member.item ≠ [] := by simpa using hne
    have hinside : Passes .key (.object :: brackets)
        (separated (members.map Member.item) ++ [0x7D]) .afterValue brackets := by
      refine passes_separated hne' step_key_space (List.forall_mem_map.2 fun m hm ↦ ?_) rfl
        (by decide) rfl
      exact Member.passes_item (hmembers m hm).1 (hmembers m hm).2
    obtain ⟨item, hitem, rest, hitems⟩ := separated_eq_of_ne_nil hne'
    obtain ⟨m, hm, rfl⟩ := List.mem_map.1 hitem
    obtain ⟨inner, -, hbytes⟩ : IsKey m.key.bytes := (hmembers m hm).1
    rw [hitems, Member.item, hbytes, quoted] at hinside ⊢
    simp only [List.append_assoc, List.cons_append] at hinside ⊢
    exact .of_open m.key.isSpace_before step_keyOrEnd_space step_key_space rfl (by decide) hinside

/-! ### Even spaces -/

/-- Items with the same spaces before each, and commas behind all but the last. -/
def joined (pad : List UInt8) : List (List UInt8) → List UInt8
  | [] => []
  | [item] => pad ++ item
  | item :: items => pad ++ item ++ 0x2C :: joined pad items

/-- The bytes of an array whose items are set apart by spaces. -/
def arrayBytes (pad pad' : List UInt8) (items : List (List UInt8)) : List UInt8 :=
  0x5B :: (joined pad items ++ pad' ++ [0x5D])

/-- A member of an object: its key, a colon, a space, and its value. -/
def memberBytes (inner value : List UInt8) : List UInt8 := quoted inner ++ 0x3A :: 0x20 :: value

/-- The bytes of an object whose members are set apart by spaces. -/
def objectBytes (pad pad' : List UInt8) (members : List (List UInt8 × List UInt8)) : List UInt8 :=
  0x7B :: (joined pad (members.map fun m ↦ memberBytes m.1 m.2) ++ pad' ++ [0x7D])

section even

variable {pad pad' : List UInt8} {values : List (List UInt8)}
  {members : List (List UInt8 × List UInt8)}

/-- A list with even spaces is one of items with spaces around them, if each can be taken for such
an item. -/
theorem exists_separated_eq_joined {α β γ : Type} (pad : List UInt8) (f : α → γ) (g : β → γ)
    (text : α → List UInt8) (item : β → Spaced) {xs : List α}
    (hpad' : ∀ b ∈ pad', isSpace b = true) (hne : xs ≠ [])
    (hitem : ∀ x ∈ xs, ∀ behind, (∀ b ∈ behind, isSpace b = true) →
      ∃ y, g y = f x ∧ (item y).text = pad ++ text x ++ behind) :
    ∃ ys, ys ≠ [] ∧ ys.map g = xs.map f ∧
      separated (ys.map item) = joined pad (xs.map text) ++ pad' := by
  induction xs with
  | nil => exact absurd rfl hne
  | cons x xs ih =>
    rw [List.forall_mem_cons] at hitem
    rcases xs with - | ⟨x', xs⟩
    · obtain ⟨y, hy, htext⟩ := hitem.1 pad' hpad'
      exact ⟨[y], List.cons_ne_nil _ _, congrArg (fun z ↦ [z]) hy, htext⟩
    · obtain ⟨y, hy, htext⟩ := hitem.1 [] isSpace_nil
      obtain ⟨_ | ⟨y', ys⟩, hys, hmap, hrest⟩ := ih (List.cons_ne_nil _ _) hitem.2
      · exact absurd rfl hys
      · refine ⟨y :: y' :: ys, List.cons_ne_nil _ _, by rw [List.map_cons, hy, hmap]; rfl, ?_⟩
        show (item y).text ++ 0x2C :: separated ((y' :: ys).map item) =
          pad ++ text x ++ 0x2C :: joined pad ((x' :: xs).map text) ++ pad'
        rw [htext, hrest, List.append_nil, List.append_assoc, List.append_assoc, List.cons_append,
          List.append_assoc]

/-- What the writer makes of items is an array of them. -/
theorem isArray_arrayBytes (hitems : values ≠ []) (hpad : ∀ b ∈ pad, isSpace b = true)
    (hpad' : ∀ b ∈ pad', isSpace b = true) : IsArray values (arrayBytes pad pad' values) := by
  obtain ⟨items, hne, hbytes, htext⟩ := exists_separated_eq_joined pad id Spaced.bytes id
    id hpad' hitems fun value _ behind hbehind ↦ ⟨⟨pad, value, behind, hpad, hbehind⟩, rfl, rfl⟩
  rw [List.map_id, List.map_id] at htext
  rw [List.map_id] at hbytes
  rw [arrayBytes, ← htext, ← hbytes]
  exact .items hne

/-- A written array is one value if its items are. -/
theorem isValue_arrayBytes (hitems : values ≠ []) (hpad : ∀ b ∈ pad, isSpace b = true)
    (hpad' : ∀ b ∈ pad', isSpace b = true) (hvalues : ∀ item ∈ values, IsValue item) :
    IsValue (arrayBytes pad pad' values) :=
  (isArray_arrayBytes hitems hpad hpad').isValue hvalues

/-- What the writer makes of members is an object with them. -/
theorem isObject_objectBytes (hmembers : members ≠ []) (hpad : ∀ b ∈ pad, isSpace b = true)
    (hpad' : ∀ b ∈ pad', isSpace b = true) :
    IsObject (members.map fun m ↦ (quoted m.1, m.2)) (objectBytes pad pad' members) := by
  obtain ⟨items, hne, hbytes, htext⟩ := exists_separated_eq_joined pad
    (fun m ↦ (quoted m.1, m.2)) (fun m : Member ↦ (m.key.bytes, m.value.bytes))
    (fun m ↦ memberBytes m.1 m.2) Member.item hpad' hmembers
    fun m _ behind hbehind ↦ ⟨⟨⟨pad, quoted m.1, [], hpad, isSpace_nil⟩,
      ⟨[0x20], m.2, behind, isSpace_blank, hbehind⟩⟩, rfl,
      by simp [Spaced.text, Member.item, memberBytes]⟩
  rw [objectBytes, ← htext, ← hbytes]
  exact .members hne

/-- A written object is one value if its members have strings and values. -/
theorem isValue_objectBytes (hmembers : members ≠ []) (hpad : ∀ b ∈ pad, isSpace b = true)
    (hpad' : ∀ b ∈ pad', isSpace b = true) (hvalues : ∀ m ∈ members, InString m.1 ∧ IsValue m.2) :
    IsValue (objectBytes pad pad' members) :=
  (isObject_objectBytes hmembers hpad hpad').isValue
    (List.forall_mem_map.2 fun m hm ↦ ⟨⟨m.1, (hvalues m hm).1, rfl⟩, (hvalues m hm).2⟩)

end even

end ServerSetup.Json
