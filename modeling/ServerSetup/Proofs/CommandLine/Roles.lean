import ServerSetup.Proofs.CommandLine.Sorting

/-!
# The roles of tokens

The sorting goes along the tokens and takes some of them two at a time. What comes of a token is a
matter of the token itself and of the one before it all the same (`Token.role`): a token that is
taken as a value is no flag, so a token behind it is never taken for a value. The main result
(`parse_by_roles`) reads off all arguments of a line from the roles of its tokens.

A token is a flag, the value of the flag before it, or an extra. `withRole` picks the tokens with
one role, in their order; it is told the token before the first one, so that it can be used in the
middle of a line. A switch is set if its flag occurs; a flag that takes a value has the text of the
last token with that role (`lastValue?`); the extra text is made of the extras, with single spaces
between them.

The three parts are shown by the recursion of the sorting, which skips a flag and its value in one
step. The step over two tokens is what the roles must account for, and it is the one place where the
local rule has to be compared with the state of the loop.
-/

namespace ServerSetup.CommandLine

open ServerSetup.Text

/-- What a token behind the executable is. -/
inductive Role
  /-- A recognised flag. -/
  | flag (f : Flag)
  /-- The value of a flag. -/
  | value (f : ValueFlag)
  /-- A token that belongs to no flag. -/
  | extra
deriving DecidableEq

/-- The role of a token behind another one: what spells a flag is one, what stands behind a flag
that takes a value is its value, and anything else is extra. -/
def Token.role (before : Option Token) (t : Token) : Role :=
  match t.flag?, before.bind Token.flag? with
  | some f, _ => .flag f
  | none, some (.value f) => .value f
  | none, _ => .extra

/-- The tokens with a role, in order. The first one stands behind `before`. -/
def withRole (r : Role) (before : Option Token) : List Token → List Token
  | [] => []
  | t :: ts => if t.role before = r then t :: withRole r (some t) ts else withRole r (some t) ts

/-- The text of the last value that a flag has. -/
def lastValue? (f : ValueFlag) (ts : List Token) : Option String :=
  (withRole (.value f) none ts).getLast?.map Token.text

variable {r : Role} {before : Option Token} {t v : Token} {ts : List Token} {f g : ValueFlag}
  {args : Arguments}

/-! ### The role of one token -/

theorem Token.role_of_flag {flag : Flag} (h : t.flag? = some flag) :
    t.role before = .flag flag := by
  rw [role, h]

/-- A token that is no flag is the value of the flag before it. -/
theorem Token.role_of_value (h : t.flag? = some (.value f)) (hv : v.flag? = none) :
    v.role (some t) = .value f := by
  rw [role, hv, Option.bind_some, h]

/-- What stands behind no flag that takes a value can only be a flag or extra. -/
theorem Token.role_of_not_value (hbefore : ∀ f, before.bind Token.flag? ≠ some (.value f))
    (ht : t.flag? = none) : t.role before = .extra := by
  rw [role, ht]
  rcases hflag : before.bind Token.flag? with - | flag
  · rfl
  · cases flag with
    | value f => exact absurd hflag (hbefore f)
    | service => rfl
    | preview => rfl

/-- A token spells a flag if its text is the name of the flag, with one dash or with two. -/
theorem Token.flag?_eq_some_iff_text {flag : Flag} :
    t.flag? = some flag ↔ t.text = flag.text ∨ t.text = "-" ++ flag.text := by
  rw [Token.flag?, Flag.ofChars?_eq_some_iff, ← String.toList_inj, ← String.toList_inj, Token.text,
    String.toList_ofList, String.toList_append]
  rfl

/-! ### Tokens with a role -/

theorem withRole_cons_of_eq (h : t.role before = r) :
    withRole r before (t :: ts) = t :: withRole r (some t) ts := if_pos h

theorem withRole_cons_of_ne (h : t.role before ≠ r) :
    withRole r before (t :: ts) = withRole r (some t) ts := if_neg h

/-- What stands before a list matters only if it takes the first token of the list as its value. -/
theorem withRole_congr (h : ∀ f, before.bind Token.flag? = some (.value f) →
    ∀ t ∈ ts.head?, t.flag?.isSome) : withRole r before ts = withRole r none ts := by
  rcases ts with - | ⟨t, ts⟩
  · rfl
  · have hrole : t.role before = t.role none := by
      rcases hflag : t.flag? with - | flag
      · have hbefore (f : ValueFlag) : before.bind Token.flag? ≠ some (.value f) := by
          intro hbefore
          have hsome := h f hbefore t rfl
          rw [hflag] at hsome
          cases hsome
        rw [Token.role_of_not_value hbefore hflag, Token.role_of_not_value (by simp) hflag]
      · rw [Token.role_of_flag hflag, Token.role_of_flag hflag]
    rw [withRole, withRole, hrole]

/-- A token that takes no value leaves the roles of those behind it alone. -/
theorem withRole_some (h : ∀ f, t.flag? = some (.value f) → ∀ u ∈ ts.head?, u.flag?.isSome) :
    withRole r (some t) ts = withRole r none ts := withRole_congr h

/-- A flag that takes no value has no part in the values and in what is extra. -/
theorem withRole_cons_flag {flag : Flag} (h : t.flag? = some flag)
    (hts : ∀ f, flag = .value f → ∀ u ∈ ts.head?, u.flag?.isSome) (hr : ∀ flag, .flag flag ≠ r) :
    withRole r none (t :: ts) = withRole r none ts := by
  rw [withRole_cons_of_ne (Token.role_of_flag h ▸ hr flag)]
  refine withRole_some fun f hf ↦ hts f ?_
  rw [h] at hf
  exact Option.some.inj hf

/-- A flag with its value is followed by tokens that neither of them concerns. -/
theorem withRole_cons_value (h : t.flag? = some (.value f)) (hv : v.flag? = none)
    (hr : ∀ flag, .flag flag ≠ r) : withRole r none (t :: v :: ts) =
      if .value f = r then v :: withRole r none ts else withRole r none ts := by
  rw [withRole_cons_of_ne (Token.role_of_flag h ▸ hr _), withRole, Token.role_of_value h hv]
  rw [withRole_some (by simp [hv])]

/-! ### The last value of a flag -/

/-- A flag that takes no value, since another flag or nothing follows it, adds none. -/
theorem lastValue?_cons_flag {flag : Flag} (h : t.flag? = some flag)
    (hts : ∀ f, flag = .value f → ∀ u ∈ ts.head?, u.flag?.isSome) :
    lastValue? g (t :: ts) = lastValue? g ts := by
  rw [lastValue?, withRole_cons_flag h hts (by simp), lastValue?]

theorem lastValue?_cons_extra (h : t.flag? = none) : lastValue? g (t :: ts) = lastValue? g ts := by
  have hrole : t.role none = .extra := Token.role_of_not_value (by simp) h
  rw [lastValue?, withRole_cons_of_ne (by simp [hrole]), withRole_some (by simp [h]), lastValue?]

/-- A flag with its value adds it to the values of this flag, unless a later one replaces it. -/
theorem lastValue?_cons_value (h : t.flag? = some (.value f)) (hv : v.flag? = none)
    (g : ValueFlag) : lastValue? g (t :: v :: ts) =
      (lastValue? g ts).or (if g = f then some v.text else none) := by
  rw [lastValue?, withRole_cons_value h hv (by simp), lastValue?]
  by_cases hg : g = f
  · rw [if_pos (by rw [hg]), if_pos hg, List.getLast?_cons]
    rcases (withRole (.value g) none ts).getLast? with - | u
    · rfl
    · rfl
  · rw [if_neg (by simpa using Ne.symm hg), if_neg hg, Option.or_none]

namespace Arguments

/-! ### Sorting by roles -/

/-- The two switches are set exactly if they occur. -/
theorem switches_ofTokens (args : Arguments) (ts : List Token) :
    ((ofTokens args ts).1.service = true ↔
      args.service = true ∨ ∃ t ∈ ts, t.flag? = some .service) ∧
    ((ofTokens args ts).1.preview = true ↔
      args.preview = true ∨ ∃ t ∈ ts, t.flag? = some .preview) := by
  fun_induction ofTokens args ts with
  | case1 => simp
  | case2 args t ts ht ih => simp [ih, ht]
  | case3 args t ts ht ih => simp [ih, ht]
  | case4 args t f ht => simp [ht]
  | case5 args t f ht v ts hv ih =>
    rw [ih.1, ih.2]
    simp [ht]
  | case6 args t f ht v ts hv ih =>
    -- neither the flag nor its value is a switch
    have hv : v.flag? = none := by simpa using hv
    rw [ih.1, ih.2]
    simp [ht, hv, set]
  | case7 args t ts ht sorted others hsorted ih =>
    rw [hsorted] at ih
    simp [ih, ht]

/-- **Each flag gets its last value,** or keeps what it had before. -/
theorem value_ofTokens_eq (args : Arguments) (ts : List Token) (g : ValueFlag) :
    (ofTokens args ts).1.value g = (lastValue? g ts).or (args.value g) := by
  fun_induction ofTokens args ts with
  | case1 => rfl
  | case2 args t ts ht ih => rw [ih, lastValue?_cons_flag ht (by simp)]
  | case3 args t ts ht ih => rw [ih, lastValue?_cons_flag ht (by simp)]
  | case4 args t f ht => rw [lastValue?_cons_flag ht (by simp)]; rfl
  | case5 args t f ht v ts hv ih => rw [ih, lastValue?_cons_flag ht (by simpa using hv)]
  | case6 args t f ht v ts hv ih =>
    rw [ih, lastValue?_cons_value ht (by simpa using hv), Option.or_assoc]
    by_cases hg : g = f
    · rw [if_pos hg, hg, value_set_self, Option.some_or]
    · rw [if_neg hg, value_set_of_ne args hg, Option.none_or]
  | case7 args t ts ht sorted others hsorted ih =>
    rw [hsorted] at ih
    rw [ih, lastValue?_cons_extra ht]

/-- **What is left over is what is extra.** -/
theorem others_ofTokens_eq (args : Arguments) (ts : List Token) :
    (ofTokens args ts).2 = withRole .extra none ts := by
  fun_induction ofTokens args ts with
  | case1 => rfl
  | case2 args t ts ht ih => rw [ih, withRole_cons_flag ht (by simp) (by simp)]
  | case3 args t ts ht ih => rw [ih, withRole_cons_flag ht (by simp) (by simp)]
  | case4 args t f ht => rw [withRole_cons_flag ht (by simp) (by simp)]; rfl
  | case5 args t f ht v ts hv ih =>
    rw [ih, withRole_cons_flag ht (by simpa using hv) (by simp)]
  | case6 args t f ht v ts hv ih =>
    rw [ih, withRole_cons_value ht (by simpa using hv) (by simp), if_neg Role.noConfusion]
  | case7 args t ts ht sorted others hsorted ih =>
    rw [hsorted] at ih
    rw [withRole_cons_of_eq (Token.role_of_not_value (by simp) ht), withRole_some (by simp [ht]),
      ← ih]

/-- **A line is read token by token.** What spells a flag is a flag. A switch is set exactly if it
occurs behind the executable. Each flag has the text of its last value, and without one it is unset,
but for the executable that leads the line. The extra text is made of the tokens that are neither
flags nor values, as they were written. -/
theorem parse_by_roles (line : String) :
    match leadingExecutable (trim line.toList) with
    | (exe, ts) =>
      (∀ (t : Token) (flag : Flag),
        t.flag? = some flag ↔ t.text = flag.text ∨ t.text = "-" ++ flag.text) ∧
      ((parse line).service = true ↔ ∃ t ∈ ts, t.flag? = some .service) ∧
      ((parse line).preview = true ↔ ∃ t ∈ ts, t.flag? = some .preview) ∧
      (∀ f, (parse line).value f = (lastValue? f ts).or (if f = .exe then exe else none)) ∧
      (parse line).extra = if withRole .extra none ts = [] then none
        else some (joined (withRole .extra none ts)) := by
  rcases hleading : leadingExecutable (trim line.toList) with ⟨exe, ts⟩
  dsimp only
  have hparse : parse line = finish (ofTokens (startingWith exe) ts) := parse_eq hleading
  -- Before the first token, nothing is set but the executable that leads the line.
  have hstart : (startingWith exe).service = false ∧ (startingWith exe).preview = false ∧
      ∀ f, (startingWith exe).value f = if f = .exe then exe else none := by
    rcases exe with - | path
    · exact ⟨rfl, rfl, fun f ↦ by rw [ite_self]; rfl⟩
    · exact ⟨rfl, rfl, fun f ↦ rfl⟩
  obtain ⟨hservice, hpreview⟩ := switches_ofTokens (startingWith exe) ts
  rw [hparse]
  refine ⟨fun _ _ ↦ Token.flag?_eq_some_iff_text, ?_, ?_, fun f ↦ ?_, ?_⟩
  · refine hservice.trans ?_
    simp [hstart.1]
  · refine hpreview.trans ?_
    simp [hstart.2.1]
  · rw [value_finish, value_ofTokens_eq, hstart.2.2]
  · show (if (ofTokens (startingWith exe) ts).2.isEmpty then none
      else some (joined (ofTokens (startingWith exe) ts).2)) = _
    rw [others_ofTokens_eq]
    simp only [List.isEmpty_iff]

/-- A flag that another flag follows has no value, and one that comes later may have one. -/
example : lastValue? .conf (tokens "-conf a --conf -preview b -log-directory".toList) = some "a" ∧
    withRole .extra none (tokens "-conf a --conf -preview b -log-directory".toList) =
      [⟨['b'], ['b']⟩] := by
  decide +kernel

end Arguments

end ServerSetup.CommandLine
