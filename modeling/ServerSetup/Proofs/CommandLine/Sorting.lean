import ServerSetup.CommandLine.Arguments
import ServerSetup.Proofs.CommandLine.Flags

/-!
# Sorting tokens into arguments

What one step of the sorting does is said once, by the form of the token at the front
(`ofTokens_service` to `ofTokens_other`). Whole lists follow by the recursion of the sorting: two
lists that meet at a flag are sorted one after the other (`ofTokens_append`), a flag that is not
there leaves its value alone (`value_ofTokens_of_forall_ne`), and every value is the text of a token
that is no flag (`value_ofTokens`).

The sorting is a loop with a look ahead: a flag that takes a value takes the next token unless that
is a flag. This is why two lists can be sorted one after the other only where the second one starts
with a flag, or the first one does not end in one that waits for a value, and why several lemmas
speak of all tokens of a list but its last (`value_ofTokens_of_dropLast`, `ofTokens_set`): a flag at
the very end takes nothing.

A `FlagRow` is a list that starts with a flag and leaves nothing over, whatever was set before. The
flags that a profile writes are such rows, and so is their concatenation; what stands behind them is
sorted as if it stood alone.
-/

namespace ServerSetup.CommandLine.Arguments

open ServerSetup.Text

variable {args : Arguments} {t v : Token} {ts us : List Token} {f g : ValueFlag}

/-! ### From a line to its sorted tokens -/

/-- The arguments before the sorting, with the executable that leads the line. -/
def startingWith : Option String → Arguments
  | some path => empty.set .exe path
  | none => empty

/-- Sorted tokens as arguments: those that belong to no flag become the extra text. -/
def finish (sorted : Arguments × List Token) : Arguments :=
  { sorted.1 with extra := if sorted.2.isEmpty then none else some (joined sorted.2) }

/-- A line is read as its executable and then the sorted tokens behind it. -/
theorem parse_eq {line : String} {exe : Option String}
    (h : leadingExecutable (trim line.toList) = (exe, ts)) :
    parse line = finish (ofTokens (startingWith exe) ts) := by
  rw [parse, h]
  cases exe <;> rfl

@[simp] theorem value_finish (sorted : Arguments × List Token) (f : ValueFlag) :
    (finish sorted).value f = sorted.1.value f := rfl

/-! ### One step -/

@[simp] theorem ofTokens_nil : ofTokens args [] = (args, []) := by rw [ofTokens]

theorem ofTokens_service (h : t.flag? = some .service) :
    ofTokens args (t :: ts) = ofTokens { args with service := true } ts := by
  rw [ofTokens.eq_def]
  simp only [h]

theorem ofTokens_preview (h : t.flag? = some .preview) :
    ofTokens args (t :: ts) = ofTokens { args with preview := true } ts := by
  rw [ofTokens.eq_def]
  simp only [h]

/-- A flag takes the next token, if that is no flag itself. -/
theorem ofTokens_value (h : t.flag? = some (.value f)) (hv : v.flag? = none) :
    ofTokens args (t :: v :: ts) = ofTokens (args.set f v.text) ts := by
  rw [ofTokens.eq_def]
  simp [h, hv]

/-- Before another flag, or at the end, a flag sets nothing. -/
theorem ofTokens_hungry (h : t.flag? = some (.value f)) (hts : ∀ u ∈ ts.head?, u.flag?.isSome) :
    ofTokens args (t :: ts) = ofTokens args ts := by
  rcases ts with - | ⟨u, ts⟩
  · rw [ofTokens.eq_def, ofTokens_nil]
    simp only [h]
  · rw [ofTokens.eq_def]
    simp [h, hts u rfl]

/-- A token that is no flag, with no flag before it, is left over. -/
theorem ofTokens_other (h : t.flag? = none) :
    ofTokens args (t :: ts) = ((ofTokens args ts).1, t :: (ofTokens args ts).2) := by
  rw [ofTokens.eq_def]
  simp only [h]

@[simp] theorem value_set_self (args : Arguments) (f : ValueFlag) (v : String) :
    (args.set f v).value f = some v := by
  simp [set]

theorem value_set_of_ne (args : Arguments) (h : g ≠ f) (v : String) :
    (args.set f v).value g = args.value g := by
  simp [set, h]

/-! ### Whole lists -/

/-- **Lists that meet at a flag are sorted one after the other.** -/
theorem ofTokens_append (hus : ∀ u ∈ us.head?, u.flag?.isSome) :
    ofTokens args (ts ++ us) = ((ofTokens (ofTokens args ts).1 us).1,
      (ofTokens args ts).2 ++ (ofTokens (ofTokens args ts).1 us).2) := by
  fun_induction ofTokens args ts with
  | case1 => simp
  | case2 args t ts h ih => rw [List.cons_append, ofTokens_service h, ih]
  | case3 args t ts h ih => rw [List.cons_append, ofTokens_preview h, ih]
  | case4 args t f h => rw [List.singleton_append, ofTokens_hungry h hus, List.nil_append]
  | case5 args t f h v ts hv ih =>
    rw [List.cons_append, ofTokens_hungry h (by simpa using hv), ih]
  | case6 args t f h v ts hv ih =>
    rw [List.cons_append, List.cons_append, ofTokens_value h (by simpa using hv), ih]
  | case7 args t ts h sorted others hsorted ih =>
    rw [List.cons_append, ofTokens_other h, ih, hsorted, List.cons_append]

/-- Where the second list does not start with a flag, a flag at the end of the first may take what
stands there as its value. -/
theorem ofTokens_append_cons (hv : v.flag? = none) :
    (ofTokens args (ts ++ v :: us) = ((ofTokens (ofTokens args ts).1 (v :: us)).1,
      (ofTokens args ts).2 ++ (ofTokens (ofTokens args ts).1 (v :: us)).2)) ∨
    ∃ g, ofTokens args (ts ++ v :: us) = ((ofTokens ((ofTokens args ts).1.set g v.text) us).1,
      (ofTokens args ts).2 ++ (ofTokens ((ofTokens args ts).1.set g v.text) us).2) := by
  -- Only a flag at the end of the front still waits for a value (case 4); every other token is
  -- sorted as it was.
  fun_induction ofTokens args ts with
  | case1 => exact Or.inl (by simp)
  | case2 args t ts h ih =>
    rw [List.cons_append, ofTokens_service h]
    exact ih
  | case3 args t ts h ih =>
    rw [List.cons_append, ofTokens_preview h]
    exact ih
  | case4 args t g h =>
    rw [List.singleton_append, ofTokens_value h hv]
    exact Or.inr ⟨g, by simp⟩
  | case5 args t g h w ts hw ih =>
    rw [List.cons_append, ofTokens_hungry h (by simpa using hw)]
    exact ih
  | case6 args t g h w ts hw ih =>
    rw [List.cons_append, List.cons_append, ofTokens_value h (by simpa using hw)]
    exact ih
  | case7 args t ts h sorted others hsorted ih =>
    rw [hsorted] at ih
    rw [List.cons_append, ofTokens_other h]
    rcases ih with ih | ⟨g, ih⟩
    · exact Or.inl (by rw [ih, List.cons_append])
    · exact Or.inr ⟨g, by rw [ih, List.cons_append]⟩

/-- Tokens that start with a flag, if there are any, and of which none is left over. -/
structure FlagRow (ts : List Token) : Prop where
  starts : ∀ t ∈ ts.head?, t.flag?.isSome
  leaves_none : ∀ args, (ofTokens args ts).2 = []

theorem FlagRow.nil : FlagRow [] := ⟨by simp, by simp⟩

/-- Rows of flags may be joined. -/
theorem FlagRow.append (hts : FlagRow ts) (hus : FlagRow us) : FlagRow (ts ++ us) where
  starts t ht := by
    rcases ts with - | ⟨u, ts⟩
    · exact hus.starts t ht
    · exact hts.starts t ht
  leaves_none args := by
    rw [ofTokens_append hus.starts]
    show (ofTokens args ts).2 ++ _ = []
    rw [hts.leaves_none, hus.leaves_none, List.append_nil]

/-- Tokens that are no flags belong to no flag, unless one stands before them. -/
theorem ofTokens_append_of_forall_none (h : ∀ t ∈ ts, t.flag? = none) :
    ofTokens args (ts ++ us) = ((ofTokens args us).1, ts ++ (ofTokens args us).2) := by
  induction ts with
  | nil => rfl
  | cons t ts ih =>
    rw [List.cons_append, ofTokens_other (h t List.mem_cons_self),
      ih fun u hu ↦ h u (List.mem_cons_of_mem _ hu), List.cons_append]

theorem ofTokens_of_forall_none (h : ∀ t ∈ ts, t.flag? = none) : ofTokens args ts = (args, ts) := by
  simpa using @ofTokens_append_of_forall_none args ts [] h

/-- The tokens that belong to no flag keep their order, and none of them is a flag. -/
theorem sublist_ofTokens : (ofTokens args ts).2.Sublist ts := by
  fun_induction ofTokens args ts with
  | case1 => exact List.Sublist.refl _
  | case2 args t ts h ih => exact ih.cons t
  | case3 args t ts h ih => exact ih.cons t
  | case4 args t f h => exact List.nil_sublist _
  | case5 args t f h v ts hv ih => exact ih.cons t
  | case6 args t f h v ts hv ih => exact (ih.cons v).cons t
  | case7 args t ts h sorted others hsorted ih =>
    rw [hsorted] at ih
    exact ih.cons_cons t

/-- What is left over is no flag. -/
theorem flag?_of_mem_ofTokens : ∀ u ∈ (ofTokens args ts).2, u.flag? = none := by
  fun_induction ofTokens args ts with
  | case1 => simp
  | case2 args t ts h ih => exact ih
  | case3 args t ts h ih => exact ih
  | case4 args t f h => simp
  | case5 args t f h v ts hv ih => exact ih
  | case6 args t f h v ts hv ih => exact ih
  | case7 args t ts h sorted others hsorted ih =>
    rw [hsorted] at ih
    exact List.forall_mem_cons.2 ⟨h, ih⟩

/-- Which tokens belong to no flag does not depend on what was read before them. -/
theorem others_ofTokens (args args' : Arguments) (ts : List Token) :
    (ofTokens args ts).2 = (ofTokens args' ts).2 := by
  fun_induction ofTokens args ts generalizing args' with
  | case1 => rw [ofTokens_nil]
  | case2 args t ts h ih => rw [ofTokens_service h, ih]
  | case3 args t ts h ih => rw [ofTokens_preview h, ih]
  | case4 args t g h => rw [ofTokens_hungry h (by simp), ofTokens_nil]
  | case5 args t g h v ts hv ih => rw [ofTokens_hungry h (by simpa using hv), ih]
  | case6 args t g h v ts hv ih => rw [ofTokens_value h (by simpa using hv), ih]
  | case7 args t ts h sorted others hsorted ih =>
    rw [hsorted] at ih
    rw [ofTokens_other h, ← ih args']

theorem forall_mem_dropLast_of_cons {P : Token → Prop} (h : ∀ u ∈ (t :: ts).dropLast, P u) :
    ∀ u ∈ ts.dropLast, P u := by
  rcases ts with - | ⟨v, ts⟩
  · simp
  · exact fun u hu ↦ h u (List.mem_cons_of_mem _ hu)

/-- A flag with no token behind it leaves its value as it was. -/
theorem value_ofTokens_of_dropLast (h : ∀ t ∈ ts.dropLast, t.flag? ≠ some (.value f)) :
    (ofTokens args ts).1.value f = args.value f := by
  fun_induction ofTokens args ts with
  | case1 => rfl
  | case2 args t ts ht ih => exact ih (forall_mem_dropLast_of_cons h)
  | case3 args t ts ht ih => exact ih (forall_mem_dropLast_of_cons h)
  | case4 args t g ht => rfl
  | case5 args t g ht v ts hv ih => exact ih (forall_mem_dropLast_of_cons h)
  | case6 args t g ht v ts hv ih =>
    have hne : f ≠ g := by
      rintro rfl
      exact h t List.mem_cons_self ht
    rw [ih (forall_mem_dropLast_of_cons (forall_mem_dropLast_of_cons h)), value_set_of_ne args hne]
  | case7 args t ts ht sorted others hsorted ih =>
    rw [hsorted] at ih
    exact ih (forall_mem_dropLast_of_cons h)

/-- A flag that does not occur leaves its value as it was. -/
theorem value_ofTokens_of_forall_ne (h : ∀ t ∈ ts, t.flag? ≠ some (.value f)) :
    (ofTokens args ts).1.value f = args.value f :=
  value_ofTokens_of_dropLast fun t ht ↦ h t (List.dropLast_subset ts ht)

/-- Two different flags may be set in either order. -/
theorem set_comm (args : Arguments) (h : g ≠ f) (v w : String) :
    (args.set f v).set g w = (args.set g w).set f v := by
  simp only [set, mk.injEq, true_and, and_true]
  funext e
  by_cases he : e = f
  · subst he
    simp [h.symm]
  · simp [he]

/-- **A value that no later flag sets changes nothing else.** -/
theorem ofTokens_set {v : String} (h : ∀ t ∈ ts.dropLast, t.flag? ≠ some (.value f)) :
    ofTokens (args.set f v) ts = ((ofTokens args ts).1.set f v, (ofTokens args ts).2) := by
  fun_induction ofTokens args ts with
  | case1 => exact ofTokens_nil
  | case2 args t ts ht ih =>
    rw [ofTokens_service ht]
    exact ih (forall_mem_dropLast_of_cons h)
  | case3 args t ts ht ih =>
    rw [ofTokens_preview ht]
    exact ih (forall_mem_dropLast_of_cons h)
  | case4 args t g ht => rw [ofTokens_hungry ht (by simp), ofTokens_nil]
  | case5 args t g ht w ts hw ih =>
    rw [ofTokens_hungry ht (by simpa using hw)]
    exact ih (forall_mem_dropLast_of_cons h)
  | case6 args t g ht w ts hw ih =>
    have hne : g ≠ f := by
      rintro rfl
      exact h t List.mem_cons_self ht
    rw [ofTokens_value ht (by simpa using hw), set_comm args hne]
    exact ih (forall_mem_dropLast_of_cons (forall_mem_dropLast_of_cons h))
  | case7 args t ts ht sorted others hsorted ih =>
    rw [hsorted] at ih
    rw [ofTokens_other ht, ih (forall_mem_dropLast_of_cons h)]

/-- The switch for a run as a service is never taken back. -/
theorem service_ofTokens (h : args.service = true) : (ofTokens args ts).1.service = true := by
  fun_induction ofTokens args ts with
  | case1 => exact h
  | case2 args t ts ht ih => exact ih rfl
  | case3 args t ts ht ih => exact ih h
  | case4 args t g ht => exact h
  | case5 args t g ht v ts hv ih => exact ih h
  | case6 args t g ht v ts hv ih => exact ih h
  | case7 args t ts ht sorted others hsorted ih =>
    rw [hsorted] at ih
    exact ih h

/-- A value that was not there before is the text of a token that is no flag. -/
theorem value_ofTokens {v : String} (h : (ofTokens args ts).1.value f = some v) :
    args.value f = some v ∨ ∃ t ∈ ts, t.flag? = none ∧ t.text = v := by
  fun_induction ofTokens args ts with
  | case1 => exact Or.inl h
  | case2 args t ts ht ih =>
    exact (ih h).imp_right fun ⟨u, hu, hv⟩ ↦ ⟨u, List.mem_cons_of_mem _ hu, hv⟩
  | case3 args t ts ht ih =>
    exact (ih h).imp_right fun ⟨u, hu, hv⟩ ↦ ⟨u, List.mem_cons_of_mem _ hu, hv⟩
  | case4 args t g ht => exact Or.inl h
  | case5 args t g ht w ts hw ih =>
    exact (ih h).imp_right fun ⟨u, hu, hv⟩ ↦ ⟨u, List.mem_cons_of_mem _ hu, hv⟩
  | case6 args t g ht w ts hw ih =>
    rcases ih h with hset | ⟨u, hu, hv⟩
    · by_cases hf : f = g
      · subst hf
        rw [value_set_self, Option.some.injEq] at hset
        exact Or.inr ⟨w, by simp, by simpa using hw, hset⟩
      · rw [value_set_of_ne args hf] at hset
        exact Or.inl hset
    · exact Or.inr ⟨u, List.mem_cons_of_mem _ (List.mem_cons_of_mem _ hu), hv⟩
  | case7 args t ts ht sorted others hsorted ih =>
    rw [hsorted] at ih
    exact (ih h).imp_right fun ⟨u, hu, hv⟩ ↦ ⟨u, List.mem_cons_of_mem _ hu, hv⟩

end ServerSetup.CommandLine.Arguments
