import ServerSetup.CommandLine.Executable
import ServerSetup.Proofs.CommandLine.Tokens
import ServerSetup.Proofs.Text.AsciiCase

/-!
# Where the executable of a line ends

Two places of the tool decide where the executable in a record ends. Reading a record takes a path
without quotes up to the first `.exe`, if a blank character follows there, or else the first token;
updating a record cuts it behind the first `.exe`, with the quote behind it if the record starts
with one. Both rest on one cut, which is the shortest prefix that ends in `.exe`
(`cutAfterExe_eq_some_iff`), so that it does not depend on what stands behind it.

What is needed later is that the front of a line decides alone what the executable is
(`leadingExecutable_front`). A front is *closed* if it closes its quotes or is read as a path
without quotes (`ClosedFront`). One that leaves a quote open would take in what is written behind
it.

`IsExecutablePath` collects what makes a text a path that is read back without quotes: it ends in
its first `.exe`, it contains no quote, it starts neither with a dash nor with a blank character,
and none of its later words starts with a dash. With such a path at the front of a record, as it is
or in quotes, an update keeps the path, whatever the arguments are (`exists_executablePart`).
-/

namespace ServerSetup.CommandLine

open ServerSetup.Text

/-! ### The cut behind the first `.exe` -/

/-- A text ends in `.exe`, in any letter case. -/
def EndsInExe (cs : List Char) : Prop := ['.', 'e', 'x', 'e'] <:+ cs.map Char.toLower

instance : DecidablePred EndsInExe := fun _ ↦ inferInstanceAs (Decidable (_ <:+ _))

theorem startsIgnoringCase_exe_iff {cs : List Char} :
    startsIgnoringCase ['.', 'e', 'x', 'e'] cs = true ↔
      (cs.take 4).map Char.toLower = ['.', 'e', 'x', 'e'] := by
  rw [startsIgnoringCase, sameIgnoringCase_iff]
  exact eq_comm

theorem EndsInExe.length_le {cs : List Char} (h : EndsInExe cs) : 4 ≤ cs.length := by
  simpa using List.IsSuffix.length_le h

theorem EndsInExe.append {cs : List Char} (h : EndsInExe cs) (front : List Char) :
    EndsInExe (front ++ cs) := by
  rw [EndsInExe, List.map_append]
  exact h.trans (List.suffix_append _ _)

/-- One character in front adds an ending only to a text that is short of it by that character. -/
theorem endsInExe_cons_iff {c : Char} {cs : List Char} :
    EndsInExe (c :: cs) ↔ (c :: cs).map Char.toLower = ['.', 'e', 'x', 'e'] ∨ EndsInExe cs := by
  rw [EndsInExe, List.map_cons, List.suffix_cons_iff, eq_comm]
  rfl

/-- **The cut is behind the first `.exe`**: its first part is the shortest prefix that ends so. -/
theorem cutAfterExe_eq_some_iff {cs exe rest : List Char} :
    cutAfterExe cs = some (exe, rest) ↔
      cs = exe ++ rest ∧ EndsInExe exe ∧ ∀ p, p <+: exe → EndsInExe p → p = exe := by
  induction cs generalizing exe rest with
  | nil =>
    constructor
    · intro h
      cases h
    · rintro ⟨happend, hends, -⟩
      rw [(List.append_eq_nil_iff.1 happend.symm).1] at hends
      exact absurd hends (by decide)
  | cons c cs ih =>
    rw [cutAfterExe]
    by_cases hstart : startsIgnoringCase ['.', 'e', 'x', 'e'] (c :: cs) = true
    · -- the first four characters end in `.exe`, and nothing shorter does
      rw [if_pos hstart]
      rw [startsIgnoringCase_exe_iff] at hstart
      have hfront : EndsInExe ((c :: cs).take 4) := ⟨[], hstart.symm⟩
      have hlength : ((c :: cs).take 4).length = 4 := by
        simpa using congrArg List.length hstart
      constructor
      · intro h
        obtain ⟨rfl, rfl⟩ := Prod.mk.inj (Option.some.inj h)
        refine ⟨(List.take_append_drop 4 _).symm, hfront, fun p hp hends ↦ ?_⟩
        exact hp.eq_of_length_le (by rw [hlength]; exact hends.length_le)
      · rintro ⟨happend, hends, hfirst⟩
        have hprefix : (c :: cs).take 4 <+: exe := by
          refine List.prefix_of_prefix_length_le (List.take_prefix 4 _) ?_ ?_
          · exact happend ▸ List.prefix_append exe rest
          · rw [hlength]
            exact hends.length_le
        have hexe : (c :: cs).take 4 = exe := hfirst _ hprefix hfront
        have hrest : (c :: cs).drop 4 = rest := by
          refine (List.append_right_inj exe).1 ?_
          rw [← happend, ← hexe, List.take_append_drop]
        rw [hexe, hrest]
    · -- behind `c` nothing changes: no prefix of this length is `.exe` as a whole
      rw [if_neg hstart]
      rw [startsIgnoringCase_exe_iff] at hstart
      have hcons {es : List Char} (hes : es <+: cs) : EndsInExe (c :: es) ↔ EndsInExe es := by
        rw [endsInExe_cons_iff, or_iff_right]
        intro hwhole
        refine hstart ?_
        have hlength : (c :: es).length = 4 := by
          simpa using congrArg List.length hwhole
        have htake : c :: es = (c :: cs).take 4 := by
          rw [← hlength]
          exact List.prefix_iff_eq_take.1 (List.cons_prefix_cons.2 ⟨rfl, hes⟩)
        rw [← htake, hwhole]
      constructor
      · intro h
        obtain ⟨⟨exe', rest'⟩, hcut, hp⟩ := Option.map_eq_some_iff.1 h
        obtain ⟨rfl, rfl⟩ := Prod.mk.inj hp
        obtain ⟨happend, hends, hfirst⟩ := ih.1 hcut
        refine ⟨by rw [happend, List.cons_append], hends.append [c], fun p hp hpends ↦ ?_⟩
        rcases p with - | ⟨d, p⟩
        · exact absurd hpends (by decide)
        · obtain ⟨rfl, hpexe⟩ := List.cons_prefix_cons.1 hp
          have hpcs : p <+: cs := hpexe.trans (happend ▸ List.prefix_append exe' rest')
          rw [hfirst p hpexe ((hcons hpcs).1 hpends)]
      · rintro ⟨happend, hends, hfirst⟩
        rcases exe with - | ⟨d, exe⟩
        · exact absurd hends (by decide)
        · obtain ⟨rfl, hcs⟩ := List.cons.inj happend
          have hexe : exe <+: cs := hcs ▸ List.prefix_append exe rest
          have hcut := ih.2 ⟨hcs, (hcons hexe).1 hends, fun p hp hpends ↦
            (List.cons.inj (hfirst (c :: p) (List.cons_prefix_cons.2 ⟨rfl, hp⟩)
              (hpends.append [c]))).2⟩
          rw [hcut]
          rfl

/-- There is a cut if and only if `.exe` occurs, in any letter case. -/
theorem isSome_cutAfterExe {cs : List Char} :
    (cutAfterExe cs).isSome ↔ ['.', 'e', 'x', 'e'] <:+: cs.map Char.toLower := by
  induction cs with
  | nil => simp [cutAfterExe]
  | cons c cs ih =>
    have hstart : startsIgnoringCase ['.', 'e', 'x', 'e'] (c :: cs) = true ↔
        ['.', 'e', 'x', 'e'] <+: (c :: cs).map Char.toLower := by
      rw [startsIgnoringCase_exe_iff, List.map_take, eq_comm]
      exact List.prefix_iff_eq_take.symm
    rw [cutAfterExe, List.map_cons, List.infix_cons_iff, ← List.map_cons, ← hstart, ← ih]
    split <;> simp [*]

theorem append_of_cutAfterExe {cs exe rest : List Char} (h : cutAfterExe cs = some (exe, rest)) :
    cs = exe ++ rest :=
  (cutAfterExe_eq_some_iff.1 h).1

/-- What stands behind the cut has no part in it. -/
theorem cutAfterExe_append {cs exe rest : List Char} (h : cutAfterExe cs = some (exe, rest))
    (rest' : List Char) : cutAfterExe (exe ++ rest') = some (exe, rest') :=
  have ⟨_, hends, hfirst⟩ := cutAfterExe_eq_some_iff.1 h
  cutAfterExe_eq_some_iff.2 ⟨rfl, hends, hfirst⟩

/-- A text that ends in `.exe` does not end in a blank character. -/
theorem EndsInExe.isBlank_getLast? {cs : List Char} (h : EndsInExe cs) :
    ∀ c ∈ cs.getLast?, isBlank c = false := by
  intro c hc
  obtain ⟨stem, hstem⟩ := h
  have hlast : (cs.map Char.toLower).getLast? = some 'e' := by
    rw [← hstem, List.getLast?_append]
    rfl
  rw [List.getLast?_map, Option.mem_def.1 hc] at hlast
  rw [← isBlank_toLower, Option.some.inj hlast]
  decide

/-- No character of `.exe` is blank, so trimming the front leaves it at the end. -/
theorem EndsInExe.trimStart {cs : List Char} (h : EndsInExe cs) : EndsInExe (trimStart cs) := by
  obtain ⟨stem, hstem⟩ := h
  obtain ⟨front, ext, rfl, -, hext⟩ := List.map_eq_append_iff.1 hstem.symm
  have hends : EndsInExe ext := ⟨[], hext.symm⟩
  have hhead : Text.trimStart ext = ext := by
    refine trimStart_eq_self fun c hc ↦ ?_
    have hdot : (ext.map Char.toLower).head? = some c.toLower := by
      rw [List.head?_map, Option.mem_def.1 hc]
      rfl
    rw [hext] at hdot
    rw [← isBlank_toLower, ← Option.some.inj hdot]
    decide
  rw [Text.trimStart, List.dropWhile_append]
  split
  · rwa [← Text.trimStart, hhead]
  · exact hends.append _

/-- Blank characters in front move the cut along. -/
theorem cutAfterExe_trimStart {cs exe rest : List Char} (h : cutAfterExe cs = some (exe, rest)) :
    cutAfterExe (trimStart exe) = some (trimStart exe, []) := by
  obtain ⟨-, hends, hfirst⟩ := cutAfterExe_eq_some_iff.1 h
  obtain ⟨blanks, hexe, -⟩ := exists_append_trimStart exe
  refine cutAfterExe_eq_some_iff.2 ⟨(List.append_nil _).symm, hends.trimStart, fun p hp hpends ↦ ?_⟩
  have hprefix : blanks ++ p <+: exe := by
    rw [hexe]
    exact (List.prefix_append_right_inj blanks).2 hp
  have hwhole : blanks ++ p = blanks ++ trimStart exe :=
    (hfirst _ hprefix (hpends.append blanks)).trans hexe
  exact List.append_cancel_left hwhole

/-! ### Executables without quotes around them -/

/-- **The unquoted executable of a line**: the line up to its first `.exe`, if the line starts with
neither a quote nor a dash, a blank character or the end follows, and no later word of it looks like
an argument. -/
theorem plainExecutable?_eq_some_iff {line exe rest : List Char} :
    plainExecutable? line = some (exe, rest) ↔
      (line.head? ≠ some '"' ∧ line.head? ≠ some '-') ∧ cutAfterExe line = some (exe, rest) ∧
        (∀ c ∈ rest.head?, isBlank c = true) ∧
        ∀ word ∈ (words exe).tail, word.head? ≠ some '-' ∧ '"' ∉ word := by
  have hblank (cs : List Char) :
      ¬ cs.head?.any (! isBlank ·) = true ↔ ∀ c ∈ cs.head?, isBlank c = true := by
    cases cs <;> simp
  have hwords (cs : List Char) : ¬ ((words cs).tail.any fun word ↦
      word.head? == some '-' || word.contains '"') = true ↔
      ∀ word ∈ (words cs).tail, word.head? ≠ some '-' ∧ '"' ∉ word := by
    simp
  have hhead : ¬ (line.head? = some '"' || line.head? = some '-') = true ↔
      line.head? ≠ some '"' ∧ line.head? ≠ some '-' := by
    simp
  rw [← hhead]
  constructor
  · intro h
    rw [plainExecutable?] at h
    split_ifs at h with h₁
    rcases hcut : cutAfterExe line with - | ⟨exe', rest'⟩
    · rw [hcut] at h
      cases h
    · rw [hcut] at h
      dsimp only at h
      split_ifs at h with h₂ h₃
      obtain ⟨rfl, rfl⟩ := Prod.mk.inj (Option.some.inj h)
      exact ⟨h₁, rfl, (hblank _).1 h₂, (hwords _).1 h₃⟩
  · rintro ⟨h₁, hcut, h₂, h₃⟩
    rw [plainExecutable?, if_neg h₁, hcut]
    dsimp only
    rw [if_neg ((hblank _).2 h₂), if_neg ((hwords _).2 h₃)]

/-! ### Lines without an executable -/

/-- A line that starts with a quote or a dash does not start with a path without quotes. -/
theorem plainExecutable?_eq_none_of_head? {line : List Char}
    (h : line.head? = some '"' ∨ line.head? = some '-') : plainExecutable? line = none := by
  rw [plainExecutable?, if_pos (by simpa using h)]

/-- A line whose first token starts with a dash has no executable in front. -/
theorem leadingExecutable_of_dash {line : List Char} {t : Token} {ts : List Token}
    (hline : line.head? = some '-') (htokens : tokens line = t :: ts)
    (ht : t.chars.head? = some '-') : leadingExecutable line = (none, t :: ts) := by
  rw [leadingExecutable, plainExecutable?_eq_none_of_head? (Or.inr hline), htokens]
  exact if_pos ht

/-! ### The part of a record that an update keeps -/

/-- What an update keeps of a record, without blank characters in front of it: it starts with a
quote or is a text up to its first `.exe`. -/
structure IsFront (front : List Char) : Prop where
  ne_nil : front ≠ []
  isBlank_head? : ∀ c ∈ front.head?, isBlank c = false
  isBlank_getLast? : ∀ c ∈ front.getLast?, isBlank c = false
  cut : front.head? = some '"' ∨ cutAfterExe front = some (front, [])

theorem IsFront.exists_not_blank {front : List Char} (h : IsFront front) :
    ∃ c ∈ front, isBlank c = false :=
  ⟨front.getLast h.ne_nil, List.getLast_mem h.ne_nil,
    h.isBlank_getLast? _ (List.getLast?_eq_some_getLast h.ne_nil)⟩

/-- An update cuts a record behind its first `.exe`, and keeps a quote behind it if the record
starts with one. -/
theorem executablePart?_eq {record : String} {exe rest : List Char}
    (h : cutAfterExe record.toList = some (exe, rest)) :
    executablePart? record = some (String.ofList
      (if record.toList.head? = some '"' ∧ rest.head? = some '"' then exe ++ ['"'] else exe)) := by
  rw [executablePart?, h, Option.map_some]
  by_cases hquote : record.toList.head? = some '"' ∧ rest.head? = some '"'
  · simp [hquote]
  · rw [if_neg hquote]
    simp only [← Bool.decide_and, decide_eq_true_eq, if_neg hquote]

/-- **What an update keeps, the next update keeps again**, whatever was written behind it. -/
theorem executablePart?_append {record part : String} (h : executablePart? record = some part)
    (behind : String) : executablePart? (part ++ " " ++ behind) = some part := by
  obtain ⟨⟨exe, rest⟩, hcut, -⟩ := Option.map_eq_some_iff.1 h
  have hne : exe ≠ [] := by
    rintro rfl
    exact absurd (cutAfterExe_eq_some_iff.1 hcut).2.1 (by decide)
  have hhead (cs : List Char) : (exe ++ cs).head? = exe.head? := List.head?_append_of_ne_nil _ hne
  rw [executablePart?_eq hcut, append_of_cutAfterExe hcut, hhead] at h
  split_ifs at h with hquote
  · -- the closing quote stays between the cut and what is written
    have hpart : part.toList = exe ++ ['"'] := by
      rw [← Option.some.inj h, String.toList_ofList]
    have hline : (part ++ " " ++ behind).toList = exe ++ '"' :: ' ' :: behind.toList := by
      simp [hpart]
    have hcut' := cutAfterExe_append hcut ('"' :: ' ' :: behind.toList)
    rw [← hline] at hcut'
    rw [executablePart?_eq hcut', hline, hhead, if_pos ⟨hquote.1, rfl⟩]
    exact h
  · have hpart : part.toList = exe := by
      rw [← Option.some.inj h, String.toList_ofList]
    have hline : (part ++ " " ++ behind).toList = exe ++ ' ' :: behind.toList := by
      simp [hpart]
    have hcut' := cutAfterExe_append hcut (' ' :: behind.toList)
    rw [← hline] at hcut'
    rw [executablePart?_eq hcut', if_neg (by simp)]
    exact h

/-- The front of a record that an update keeps may start a line. -/
theorem isFront_executablePart {record part : String} (h : executablePart? record = some part) :
    IsFront (trimStart part.toList) := by
  obtain ⟨⟨exe, rest⟩, hcut, -⟩ := Option.map_eq_some_iff.1 h
  obtain ⟨-, hends, -⟩ := cutAfterExe_eq_some_iff.1 hcut
  have hhead (cs : List Char) : ∀ c ∈ (trimStart cs).head?, isBlank c = false := by
    intro c hc
    have hdrop := List.head?_dropWhile_not isBlank cs
    rw [← trimStart, Option.mem_def.1 hc] at hdrop
    simpa using hdrop
  rw [executablePart?_eq hcut] at h
  rw [← Option.some.inj h, String.toList_ofList]
  -- A record in quotes is cut behind the closing quote, any other one behind the ending.
  split
  · rename_i hquote
    have hfirst : (exe ++ ['"']).head? = some '"' := by
      have hne : exe ≠ [] := by
        rintro rfl
        exact absurd hends (by decide)
      have hrecord := hquote.1
      rw [append_of_cutAfterExe hcut, List.head?_append_of_ne_nil _ hne] at hrecord
      rw [List.head?_append_of_ne_nil _ hne, hrecord]
    have htrim : trimStart (exe ++ ['"']) = exe ++ ['"'] := by
      refine trimStart_eq_self fun c hc ↦ ?_
      rw [hfirst, Option.mem_some_iff] at hc
      rw [← hc]
      decide
    rw [htrim]
    refine ⟨by simp, htrim ▸ hhead _, ?_, Or.inl hfirst⟩
    intro c hc
    rw [List.getLast?_append] at hc
    rw [← Option.some.inj hc]
    decide
  · have htrim := hends.trimStart
    refine ⟨?_, hhead exe, htrim.isBlank_getLast?, Or.inr (cutAfterExe_trimStart hcut)⟩
    intro hnil
    rw [hnil] at htrim
    exact absurd htrim (by decide)

/-- Whether a record has an unquoted executable is decided by the part that an update keeps. -/
theorem plainExecutable?_front {front : List Char} (h : IsFront front) (rest : List Char) :
    (plainExecutable? front = some (front, []) ∧
        plainExecutable? (front ++ ' ' :: rest) = some (front, ' ' :: rest)) ∨
      (plainExecutable? front = none ∧ plainExecutable? (front ++ ' ' :: rest) = none) := by
  have hhead : (front ++ ' ' :: rest).head? = front.head? := List.head?_append_of_ne_nil _ h.ne_nil
  rcases h.cut with hquote | hcut
  · right
    exact ⟨plainExecutable?_eq_none_of_head? (Or.inl hquote),
      plainExecutable?_eq_none_of_head? (Or.inl (hhead.trans hquote))⟩
  · -- the cut is the same, so only the conditions on the front are left, and they are the same too
    have hcut' := cutAfterExe_append hcut (' ' :: rest)
    by_cases hplain : (front.head? ≠ some '"' ∧ front.head? ≠ some '-') ∧
        ∀ word ∈ (words front).tail, word.head? ≠ some '-' ∧ '"' ∉ word
    · left
      refine ⟨plainExecutable?_eq_some_iff.2 ⟨hplain.1, hcut, by simp, hplain.2⟩,
        plainExecutable?_eq_some_iff.2 ⟨by rw [hhead]; exact hplain.1, hcut', ?_, hplain.2⟩⟩
      intro c hc
      rw [← Option.some.inj hc]
      decide
    · right
      have hnone {line behind : List Char} (hline : line.head? = front.head?)
          (hcut : cutAfterExe line = some (front, behind)) : plainExecutable? line = none := by
        rcases hp : plainExecutable? line with - | ⟨exe, after⟩
        · rfl
        · obtain ⟨hheads, hcut₂, -, hwords⟩ := plainExecutable?_eq_some_iff.1 hp
          rw [hcut] at hcut₂
          obtain ⟨rfl, rfl⟩ := Prod.mk.inj (Option.some.inj hcut₂)
          rw [hline] at hheads
          exact absurd ⟨hheads, hwords⟩ hplain
      exact ⟨hnone rfl hcut, hnone hhead hcut'⟩

/-- The front of a record closes its quotes, or is an executable without quotes around it. -/
def ClosedFront (front : List Char) : Prop :=
  (plainExecutable? front).isSome ∨ ClosesQuotes front

instance : DecidablePred ClosedFront := fun _ ↦ inferInstanceAs (Decidable (_ ∨ _))

/-- **The executable is read from the front of a record**, if the front is closed. -/
theorem leadingExecutable_front {front : List Char} (h : IsFront front)
    (hclosed : ClosedFront front) (rest : List Char) : leadingExecutable (front ++ ' ' :: rest) =
      ((leadingExecutable front).1, (leadingExecutable front).2 ++ tokens rest) := by
  rcases plainExecutable?_front h rest with ⟨hplain, hplain'⟩ | ⟨hplain, hplain'⟩
  · rw [leadingExecutable, leadingExecutable, hplain, hplain']
    show (some _, tokens (' ' :: rest)) = (some _, tokens [] ++ tokens rest)
    rw [tokens_cons_blank (by decide), tokens_nil, List.nil_append]
  · have hbalanced : ClosesQuotes front := by
      refine hclosed.resolve_left ?_
      rw [hplain]
      exact Bool.false_ne_true
    rw [leadingExecutable, leadingExecutable, hplain, hplain',
      tokens_append_blank hbalanced (by decide)]
    rcases htokens : tokens front with - | ⟨t, ts⟩
    · exact absurd htokens (tokens_ne_nil h.exists_not_blank)
    · rw [List.cons_append]
      dsimp only
      split <;> rfl

/-- Tokens at the end of a line stand behind its executable, if other tokens stand before them. -/
theorem exists_leadingExecutable_append {line : List Char} {ts us : List Token}
    (hplain : plainExecutable? line = none) (htokens : tokens line = ts ++ us) (hne : ts ≠ []) :
    ∃ exe ts', leadingExecutable line = (exe, ts' ++ us) := by
  rw [leadingExecutable, hplain, htokens]
  rcases ts with - | ⟨t, ts⟩
  · exact absurd rfl hne
  · rw [List.cons_append]
    dsimp only
    split
    · exact ⟨none, t :: ts, rfl⟩
    · exact ⟨some t.text, ts, rfl⟩

/-! ### Records that start with a path -/

/-- The path of an executable as a record can start with it: it has no quotes, neither a dash nor a
blank character comes first, its first `.exe` is its end, and no word in it after the first looks
like a flag. -/
structure IsExecutablePath (path : String) : Prop where
  no_quote : '"' ∉ path.toList
  no_dash : path.toList.head? ≠ some '-'
  isBlank_head? : ∀ c ∈ path.toList.head?, isBlank c = false
  endsInExe : EndsInExe path.toList
  first : ∀ front, front <+: path.toList → EndsInExe front → front = path.toList
  words : ∀ word ∈ (words path.toList).tail, word.head? ≠ some '-'

/-- The path is where the cut of itself is. -/
theorem isExecutablePath_iff {path : String} : IsExecutablePath path ↔
    '"' ∉ path.toList ∧ path.toList.head? ≠ some '-' ∧
      path.toList.head?.all (! isBlank ·) = true ∧
      cutAfterExe path.toList = some (path.toList, []) ∧
      ∀ word ∈ (words path.toList).tail, word.head? ≠ some '-' := by
  have hhead : path.toList.head?.all (! isBlank ·) = true ↔
      ∀ c ∈ path.toList.head?, isBlank c = false := by
    cases path.toList.head? <;> simp
  rw [hhead, cutAfterExe_eq_some_iff]
  constructor
  · intro h
    exact ⟨h.no_quote, h.no_dash, h.isBlank_head?, ⟨(List.append_nil _).symm, h.endsInExe, h.first⟩,
      h.words⟩
  · rintro ⟨hquote, hdash, hblank, ⟨-, hends, hfirst⟩, hwords⟩
    exact ⟨hquote, hdash, hblank, hends, hfirst, hwords⟩

instance : DecidablePred IsExecutablePath := fun _ ↦ decidable_of_iff' _ isExecutablePath_iff

/-- A record starts with a path, as it is or in quotes. -/
def StartsWithPath (record path : String) : Prop :=
  path.toList <+: record.toList ∨ '"' :: (path.toList ++ ['"']) <+: record.toList

namespace IsExecutablePath

variable {path record : String}

/-- A path of an executable is not empty. -/
theorem ne_nil (h : IsExecutablePath path) : path.toList ≠ [] := by
  intro hnil
  have hends := h.endsInExe
  rw [hnil] at hends
  exact absurd hends (by decide)

theorem head?_ne_quote (h : IsExecutablePath path) : path.toList.head? ≠ some '"' :=
  fun hquote ↦ h.no_quote (List.mem_of_head? hquote)

/-- The cut behind the path of an executable does not depend on what stands behind it. -/
theorem cutAfterExe_append (h : IsExecutablePath path) (rest : List Char) :
    cutAfterExe (path.toList ++ rest) = some (path.toList, rest) :=
  cutAfterExe_eq_some_iff.2 ⟨rfl, h.endsInExe, h.first⟩

/-- The same holds behind an opening quote, which is on the left side of the cut. -/
theorem cutAfterExe_quoted (h : IsExecutablePath path) (rest : List Char) :
    cutAfterExe ('"' :: (path.toList ++ rest)) = some ('"' :: path.toList, rest) := by
  have hcons {cs : List Char} (hcs : EndsInExe ('"' :: cs)) : EndsInExe cs := by
    refine (endsInExe_cons_iff.1 hcs).resolve_left fun hwhole ↦ ?_
    rw [List.map_cons] at hwhole
    exact absurd (List.cons.inj hwhole).1 (by decide)
  refine cutAfterExe_eq_some_iff.2 ⟨rfl, h.endsInExe.append ['"'], fun p hp hends ↦ ?_⟩
  rcases p with - | ⟨c, p⟩
  · exact absurd hends (by decide)
  · obtain ⟨rfl, hpath⟩ := List.cons_prefix_cons.1 hp
    rw [h.first p hpath (hcons hends)]

/-- A path starts a line that has no quotes around it. -/
theorem plainExecutable?_eq (h : IsExecutablePath path) :
    plainExecutable? path.toList = some (path.toList, []) := by
  refine plainExecutable?_eq_some_iff.2 ⟨⟨h.head?_ne_quote, h.no_dash⟩, ?_, by simp, ?_⟩
  · simpa using h.cutAfterExe_append []
  · exact fun word hword ↦ ⟨h.words word hword, fun hquote ↦
      h.no_quote (mem_of_mem_words (List.mem_of_mem_tail hword) _ hquote)⟩

/-- A path of an executable alone is read as the executable, without arguments. -/
theorem leadingExecutable_eq (h : IsExecutablePath path) :
    leadingExecutable path.toList = (some path, []) := by
  rw [leadingExecutable, h.plainExecutable?_eq]
  dsimp only
  rw [String.ofList_toList, tokens_nil]

/-- A path in quotes is one token, which does not start with a dash. -/
theorem leadingExecutable_quoted (h : IsExecutablePath path) :
    leadingExecutable ('"' :: (path.toList ++ ['"'])) = (some path, []) := by
  have htokens : tokens ('"' :: (path.toList ++ ['"'])) =
      [.ofRaw ('"' :: (path.toList ++ ['"']))] :=
    (wellFormed_quoted h.no_quote).tokens_raw
  have hchars : (Token.ofRaw ('"' :: (path.toList ++ ['"']))).chars = path.toList :=
    Token.chars_quoted h.no_quote
  rw [leadingExecutable, plainExecutable?_eq_none_of_head? (Or.inl rfl), htokens]
  dsimp only
  rw [hchars, if_neg h.no_dash, Token.text, hchars, String.ofList_toList]

theorem closedFront (h : IsExecutablePath path) : ClosedFront path.toList :=
  Or.inl (by rw [h.plainExecutable?_eq]; rfl)

theorem closedFront_quoted (h : IsExecutablePath path) :
    ClosedFront ('"' :: (path.toList ++ ['"'])) :=
  Or.inr (closesQuotes_quoted h.no_quote)

/-- **An update keeps the path that a record starts with**, and the path is the executable that is
read in what is kept. -/
theorem exists_executablePart (h : IsExecutablePath path) (hrecord : StartsWithPath record path) :
    ∃ part, executablePart? record = some part ∧ ClosedFront (trimStart part.toList) ∧
      leadingExecutable (trimStart part.toList) = (some path, []) := by
  -- The path stands in the record as it is, or in quotes.
  rcases hrecord with ⟨rest, hrest⟩ | ⟨rest, hrest⟩
  · refine ⟨path, ?_, ?_, ?_⟩
    · have hhead : record.toList.head? ≠ some '"' := by
        rw [← hrest, List.head?_append_of_ne_nil _ h.ne_nil]
        exact h.head?_ne_quote
      have hcut := h.cutAfterExe_append rest
      rw [hrest] at hcut
      rw [executablePart?_eq hcut, if_neg (fun hquote ↦ hhead hquote.1), String.ofList_toList]
    · rw [trimStart_eq_self h.isBlank_head?]
      exact h.closedFront
    · rw [trimStart_eq_self h.isBlank_head?]
      exact h.leadingExecutable_eq
  · have hpart : ("\"" ++ path ++ "\"").toList = '"' :: (path.toList ++ ['"']) := by
      simp
    have htrim : trimStart ("\"" ++ path ++ "\"").toList = '"' :: (path.toList ++ ['"']) := by
      rw [hpart]
      exact trimStart_eq_self fun c hc ↦ by
        rw [← Option.some.inj hc]
        decide
    refine ⟨"\"" ++ path ++ "\"", ?_, ?_, ?_⟩
    · have hcut : cutAfterExe record.toList = some ('"' :: path.toList, '"' :: rest) := by
        rw [← hrest, List.cons_append, List.append_assoc]
        exact h.cutAfterExe_quoted _
      have hhead : record.toList.head? = some '"' := by
        rw [← hrest]
        rfl
      rw [executablePart?_eq hcut, if_pos ⟨hhead, rfl⟩, Option.some.injEq, ← String.toList_inj,
        String.toList_ofList, hpart, List.cons_append]
    · rw [htrim]
      exact h.closedFront_quoted
    · rw [htrim]
      exact h.leadingExecutable_quoted

end IsExecutablePath

end ServerSetup.CommandLine
