import ServerSetup.Proofs.CommandLine.Executable
import ServerSetup.Proofs.CommandLine.Sorting

/-!
# Executables with and without quotes

The path of an executable may stand at the front of a line as it is, even with spaces in it, or in
quotes. The two are read in different ways: without quotes the path reaches to its first `.exe`, in
quotes it is the first token. Behind the path there is no difference any more, so both lines have
the same arguments (`parse_quoted`), whatever is written there.

The text behind the path is arbitrary: it may contain another `.exe`, flags that set the executable
again, or a quote that is never closed. What it means is said in full, as the tokens of that text,
trimmed at its end, sorted from the state in which only the executable is known. A blank character
between the path and the rest is part of the statement, since without it the path would not end
where it does.

Trimming the line is the one step that looks at both parts at once. A front that starts and ends
with characters that are not blank keeps it apart (`leadingExecutable_trim_front`): the front is not
touched, and the rest is trimmed at its end alone.
-/

namespace ServerSetup.CommandLine

open ServerSetup.Text

/-- **What is trimmed off a line is behind its executable**, if the front is closed. -/
theorem leadingExecutable_trim_front {front : List Char} (h : IsFront front)
    (hclosed : ClosedFront front) (rest : List Char) :
    leadingExecutable (trim (front ++ ' ' :: rest)) =
      ((leadingExecutable front).1, (leadingExecutable front).2 ++ tokens (trimEnd rest)) := by
  have hstart : trimStart (front ++ ' ' :: rest) = front ++ ' ' :: rest := by
    rw [trimStart_append h.exists_not_blank, trimStart_eq_self h.isBlank_head?]
  rw [trim, hstart]
  by_cases hblank : ∃ c ∈ rest, isBlank c = false
  · have hend : trimEnd (front ++ ' ' :: rest) = front ++ ' ' :: trimEnd rest := by
      rw [List.append_cons, trimEnd_append hblank, ← List.append_cons]
    rw [hend, leadingExecutable_front h hclosed]
  · -- behind the front there are blank characters only, so they are trimmed off with the space
    have hrest : ∀ c ∈ rest, isBlank c = true := by simpa using hblank
    have hnil : trimEnd rest = [] := trimEnd_append_blanks [] hrest
    have hblanks : ∀ c ∈ ' ' :: rest, isBlank c = true := List.forall_mem_cons.2 ⟨by decide, hrest⟩
    have hend : trimEnd (front ++ ' ' :: rest) = front := by
      rw [trimEnd_append_blanks front hblanks, trimEnd_eq_self h.isBlank_getLast?]
    rw [hend, hnil, tokens_nil, List.append_nil]

theorem IsExecutablePath.isFront {path : String} (h : IsExecutablePath path) :
    IsFront path.toList where
  ne_nil := h.ne_nil
  isBlank_head? := h.isBlank_head?
  isBlank_getLast? := h.endsInExe.isBlank_getLast?
  cut := Or.inr (by simpa using h.cutAfterExe_append [])

/-- A text in quotes starts with a character that is not blank, and ends so. -/
theorem isFront_quoted (cs : List Char) : IsFront ('"' :: (cs ++ ['"'])) where
  ne_nil := by simp
  isBlank_head? c hc := by
    rw [← Option.some.inj hc]
    decide
  isBlank_getLast? c hc := by
    rw [← List.cons_append, List.getLast?_concat] at hc
    rw [← Option.some.inj hc]
    decide
  cut := Or.inl rfl

/-- **A path is read alike with and without quotes around it**, whatever stands behind it: the
arguments are sorted from the tokens of the text behind the path. -/
theorem Arguments.parse_quoted {path : String} (h : IsExecutablePath path) (behind : String) :
    parse (path ++ " " ++ behind) = parse ("\"" ++ path ++ "\" " ++ behind) ∧
      parse (path ++ " " ++ behind) =
        finish (ofTokens (startingWith (some path)) (tokens (trimEnd behind.toList))) := by
  have hplain : parse (path ++ " " ++ behind) =
      finish (ofTokens (startingWith (some path)) (tokens (trimEnd behind.toList))) := by
    refine parse_eq ?_
    have hline : (path ++ " " ++ behind).toList = path.toList ++ ' ' :: behind.toList := by simp
    rw [hline, leadingExecutable_trim_front h.isFront h.closedFront, h.leadingExecutable_eq,
      List.nil_append]
  have hquoted : parse ("\"" ++ path ++ "\" " ++ behind) =
      finish (ofTokens (startingWith (some path)) (tokens (trimEnd behind.toList))) := by
    refine parse_eq ?_
    have hline : ("\"" ++ path ++ "\" " ++ behind).toList =
        '"' :: (path.toList ++ ['"']) ++ ' ' :: behind.toList := by simp
    rw [hline, leadingExecutable_trim_front (isFront_quoted _) h.closedFront_quoted,
      h.leadingExecutable_quoted, List.nil_append]
  exact ⟨hplain.trans hquoted.symm, hplain⟩

/-- The path has spaces; the text behind it has another `.exe`, a blank character in a value, and a
quote that is left open. -/
theorem Arguments.parse_quoted_spaced :
    let path := "C:\\Program Files\\resin\\Resin.EXE"
    let behind := "\t-exe other.exe -user \"a b\" keep --server \"x "
    IsExecutablePath path ∧
      parse (path ++ " " ++ behind) = parse ("\"" ++ path ++ "\" " ++ behind) ∧
      (parse (path ++ " " ++ behind)).value .exe = some "other.exe" ∧
      (parse (path ++ " " ++ behind)).value .user = some "a b" ∧
      (parse (path ++ " " ++ behind)).value .server = some "x" ∧
      (parse (path ++ " " ++ behind)).extra = some "keep" := by
  intro path behind
  have hpath : IsExecutablePath path := by decide +kernel
  obtain ⟨hsame, hparse⟩ := Arguments.parse_quoted hpath behind
  have htokens : tokens (trimEnd behind.toList) =
      ["-exe", "other.exe", "-user", "\"a b\"", "keep", "--server", "\"x"].map
        (Token.ofRaw ·.toList) := by
    decide +kernel
  refine ⟨hpath, hsame, ?_⟩
  rw [hparse, htokens]
  decide +kernel

end ServerSetup.CommandLine
