import ServerSetup.Proofs.Path.Segment
import ServerSetup.Proofs.Path.Spelling
import ServerSetup.Proofs.Text.Split

/-!
# The way up from a path

A path is cut at its last separator: the path above is what stands before, and the last segment what
stands behind (`IsParent`). Going up step by step drops one segment after the other, so that the
paths above are given by how many of the segments they have (`segments_ancestors`). The way up ends
at a volume root, which is what a segment that ends in a colon is taken for, and it does not come to
the root of a path that starts with a single separator.

Segments are what stands between separators, of either kind and however many; the function that goes
up works from the end of the text, and `Cut` is what connects the two. A step up fails on a root and
on a path of one segment. Which numbers of segments are met on the way is said by `onTheWay`, a test
on the path alone: there is a way up at all, no segment on the way names a volume, and there is a
segment left, or the root is written with two separators.

`ancestors_climb` puts the two together: what is met, in which order, that each is above the path in
the sense of its text and of its segments, and that the climb ends. It does not look at any disk.
-/

namespace ServerSetup.Path

variable {cs ds seps front last : List Char} {c sep : Char} {path parent : String} {k : Nat}

/-! ### Segments -/

/-- What stands between the separators of a path. -/
def segments (cs : List Char) : List (List Char) :=
  (Text.splitWhere isSeparator cs).filter (! ·.isEmpty)

/-- The segments of a path are those before a separator and those behind it. -/
theorem segments_append_cons (hsep : isSeparator sep = true) (front rest : List Char) :
    segments (front ++ sep :: rest) = segments front ++ segments rest := by
  simp only [segments, Text.splitWhere_eq_splitOnP, List.splitOnP_append_cons _ _ hsep,
    List.filter_append]

/-- A text without separators is one segment. -/
theorem segments_plain (hne : cs ≠ []) (hplain : ∀ c ∈ cs, isSeparator c = false) :
    segments cs = [cs] := by
  rw [segments, Text.splitWhere_eq_splitOnP, List.splitOnP_eq_singleton hplain,
    List.filter_cons_of_pos (by simpa using hne), List.filter_nil]

/-- Separators alone make no segment. -/
theorem segments_separators (hseps : ∀ s ∈ seps, isSeparator s = true) : segments seps = [] := by
  induction seps with
  | nil => rfl
  | cons s seps ih =>
    rw [List.forall_mem_cons] at hseps
    exact (segments_append_cons hseps.1 [] seps).trans (ih hseps.2)

/-- Separators at the end add no segment. -/
theorem segments_append_separators (hseps : ∀ s ∈ seps, isSeparator s = true) :
    segments (cs ++ seps) = segments cs := by
  rcases seps with - | ⟨s, seps⟩
  · rw [List.append_nil]
  · rw [List.forall_mem_cons] at hseps
    rw [segments_append_cons hseps.1, segments_separators hseps.2, List.append_nil]

theorem segments_trimSeparators (cs : List Char) : segments (trimSeparators cs) = segments cs := by
  obtain ⟨seps, hcs, hseps⟩ := exists_trimSeparators_append cs
  conv_rhs => rw [hcs]
  rw [segments_append_separators hseps]

/-- A text has no separator, or it is cut at the last one. -/
theorem plain_or_cut (cs : List Char) : (∀ c ∈ cs, isSeparator c = false) ∨
    ∃ front sep last, cs = front ++ sep :: last ∧ isSeparator sep = true ∧
      ∀ c ∈ last, isSeparator c = false := by
  induction cs with
  | nil => exact .inl (List.forall_mem_nil _)
  | cons c cs ih =>
    obtain hplain | ⟨front, sep, last, rfl, hsep, hlast⟩ := ih
    · rcases hc : isSeparator c with - | -
      · exact .inl (List.forall_mem_cons.2 ⟨hc, hplain⟩)
      · exact .inr ⟨[], c, cs, rfl, hc, hplain⟩
    · exact .inr ⟨c :: front, sep, last, rfl, hsep, hlast⟩

/-- The last segment ends as the path does, if that does not end in a separator. -/
theorem getLast?_segments_concat (hc : isSeparator c = false) (cs : List Char) :
    ∃ segment, (segments (cs ++ [c])).getLast? = some segment ∧ segment.getLast? = some c := by
  have hplain {ds : List Char} (h : ∀ d ∈ ds, isSeparator d = false) :
      segments (ds ++ [c]) = [ds ++ [c]] := by
    refine segments_plain (by simp) fun d hd ↦ ?_
    rcases List.mem_append.1 hd with hd | hd
    · exact h d hd
    · exact List.mem_singleton.1 hd ▸ hc
  obtain h | ⟨front, sep, last, rfl, hsep, hlast⟩ := plain_or_cut cs
  · exact ⟨cs ++ [c], by rw [hplain h]; rfl, by simp⟩
  · refine ⟨last ++ [c], ?_, by simp⟩
    rw [List.append_assoc, List.cons_append, segments_append_cons hsep, hplain hlast]
    simp

/-- A path with segments is cut behind the last character that is no separator. -/
theorem exists_of_segments_ne_nil (h : segments cs ≠ []) : ∃ body c seps,
    cs = body ++ [c] ++ seps ∧ isSeparator c = false ∧ ∀ s ∈ seps, isSeparator s = true := by
  induction cs using List.reverseRecOn with
  | nil => exact absurd rfl h
  | append_singleton cs c ih =>
    rcases hc : isSeparator c with - | -
    · exact ⟨cs, c, [], by simp, hc, List.forall_mem_nil _⟩
    · rw [segments_append_separators (by simpa using hc)] at h
      obtain ⟨body, d, seps, rfl, hd, hseps⟩ := ih h
      refine ⟨body, d, seps ++ [c], by simp, hd, fun s hs ↦ ?_⟩
      rcases List.mem_append.1 hs with hs | hs
      · exact hseps s hs
      · exact List.mem_singleton.1 hs ▸ hc

/-! ### One step up -/

theorem not_isSeparator_reverse (hplain : ∀ c ∈ cs, isSeparator c = false) :
    ∀ c ∈ cs.reverse, (! isSeparator c) = true := by
  intro c hc
  rw [hplain c (List.mem_reverse.1 hc)]
  rfl

/-- What stands behind the cut, from the end. -/
theorem takeWhile_cut (hsep : isSeparator sep = true) (hlast : ∀ c ∈ last, isSeparator c = false)
    (front : List Char) :
    (front ++ sep :: last).reverse.takeWhile (! isSeparator ·) = last.reverse := by
  rw [List.reverse_append, List.reverse_cons, List.append_assoc, List.singleton_append,
    List.takeWhile_append_of_pos (not_isSeparator_reverse hlast),
    List.takeWhile_cons_of_neg (by simp [hsep]), List.append_nil]

/-- What stands in front of the cut, from the end, and the separator at the cut. -/
theorem dropWhile_cut (hsep : isSeparator sep = true) (hlast : ∀ c ∈ last, isSeparator c = false)
    (front : List Char) :
    (front ++ sep :: last).reverse.dropWhile (! isSeparator ·) = sep :: front.reverse := by
  rw [List.reverse_append, List.reverse_cons, List.append_assoc, List.singleton_append,
    List.dropWhile_append_of_pos (not_isSeparator_reverse hlast),
    List.dropWhile_cons_of_neg (by simp [hsep])]

/-- The path above, by what stands before the last separator and behind it. -/
theorem parentOfReversed_cut (hsep : isSeparator sep = true)
    (hlast : ∀ c ∈ last, isSeparator c = false) (front : List Char) :
    parentOfReversed (front ++ sep :: last).reverse =
      if front = [] then none
      else if front.getLast? = some ':' then
        if last = [] then none else some (front ++ [sep]).reverse
      else some front.reverse := by
  rw [parentOfReversed, dropWhile_cut hsep hlast, takeWhile_cut hsep hlast]
  induction front using List.reverseRecOn with
  | nil => rfl
  | append_singleton front c _ =>
    rw [if_neg (by simp)]
    by_cases hcolon : c = ':'
    · subst hcolon
      by_cases hnil : last = [] <;> simp [hnil]
    · simp [hcolon]

/-- The same for the path as it is written. -/
theorem above?_cut (hcut : trimSeparators path.toList = front ++ sep :: last)
    (hsep : isSeparator sep = true) (hlast : ∀ c ∈ last, isSeparator c = false) :
    above? path = if front = [] then none
      else if front.getLast? = some ':' then
        if last = [] then none else some (String.ofList (front ++ [sep]))
      else some (String.ofList front) := by
  rw [above?, hcut, parentOfReversed_cut hsep hlast]
  split
  · rfl
  · split
    · split
      · rfl
      · rw [Option.map_some, List.reverse_reverse]
    · rw [Option.map_some, List.reverse_reverse]

/-- There is nothing above a path without separators. -/
theorem above?_plain (hplain : ∀ c ∈ trimSeparators path.toList, isSeparator c = false) :
    above? path = none := by
  rw [above?, parentOfReversed, List.dropWhile_eq_nil_iff.2 (not_isSeparator_reverse hplain),
    Option.map_none]

/-- A path that is cut at its last separator, with something before and behind it. A volume root
keeps the separator. -/
structure Cut (path parent : String) (front : List Char) (sep : Char) (last : List Char) :
    Prop where
  trimmed : trimSeparators path.toList = front ++ sep :: last
  front_ne_nil : front ≠ []
  isSeparator_sep : isSeparator sep = true
  last_ne_nil : last ≠ []
  plain : ∀ c ∈ last, isSeparator c = false
  parent_eq : parent.toList = if front.getLast? = some ':' then front ++ [sep] else front

/-- Behind the last separator of a trimmed path there is something, except in a volume root. -/
theorem last_ne_nil_of_trimmed (hcut : trimSeparators path.toList = front ++ sep :: last)
    (hsep : isSeparator sep = true) (hfront : front ≠ []) (hcolon : front.getLast? ≠ some ':') :
    last ≠ [] := by
  rintro rfl
  obtain ⟨body, c, rfl⟩ := front.eq_nil_or_concat.resolve_left hfront
  have htrimmed := trimSeparators_trimSeparators path.toList
  have hc : (c != ':') = true := by simpa using hcolon
  rw [hcut, trimSeparators, List.reverse_append, List.reverse_singleton, List.concat_eq_append,
    List.reverse_concat, List.singleton_append, dropFinalSeparators, hsep, hc] at htrimmed
  have hlength := congrArg List.length htrimmed
  have hle := length_dropFinalSeparators (c :: body.reverse)
  simp only [Bool.and_self, if_true, List.length_reverse, List.length_append, List.length_cons,
    List.length_nil] at hlength hle
  omega

/-- Where there is a path above, the path is cut at its last separator. -/
theorem exists_cut_of_above? (h : above? path = some parent) :
    ∃ front sep last, Cut path parent front sep last := by
  obtain hplain | ⟨front, sep, last, hcut, hsep, hlast⟩ := plain_or_cut (trimSeparators path.toList)
  · rw [above?_plain hplain] at h
    cases h
  · rw [above?_cut hcut hsep hlast] at h
    by_cases hfront : front = []
    · rw [if_pos hfront] at h
      cases h
    · rw [if_neg hfront] at h
      by_cases hcolon : front.getLast? = some ':'
      · rw [if_pos hcolon] at h
        by_cases hnil : last = []
        · rw [if_pos hnil] at h
          cases h
        · rw [if_neg hnil] at h
          cases h
          exact ⟨front, sep, last, hcut, hfront, hsep, hnil, hlast, by simp [hcolon]⟩
      · rw [if_neg hcolon] at h
        cases h
        exact ⟨front, sep, last, hcut, hfront, hsep, last_ne_nil_of_trimmed hcut hsep hfront hcolon,
          hlast, by simp [hcolon]⟩

namespace Cut

variable (h : Cut path parent front sep last)

include h

theorem lastSegment_eq : lastSegment path = String.ofList last := by
  rw [lastSegment, h.trimmed, takeWhile_cut h.isSeparator_sep h.plain, List.reverse_reverse]

/-- The path above is a beginning of what stands before the last segment. -/
theorem parent_isPrefix : parent.toList <+: front ++ [sep] := by
  rw [h.parent_eq]
  split
  · exact List.prefix_rfl
  · exact List.prefix_append _ _

/-- The path above, with the separator, is a beginning of the path. -/
theorem front_isPrefix : front ++ [sep] <+: path.toList := by
  obtain ⟨seps, hpath, -⟩ := exists_trimSeparators_append path.toList
  refine ⟨last ++ seps, ?_⟩
  rw [hpath, h.trimmed]
  simp

/-- The path above has the segments that stand before the last separator. -/
theorem segments_parent : segments parent.toList = segments front := by
  rw [h.parent_eq]
  split
  · exact segments_append_separators (by simpa using h.isSeparator_sep)
  · rfl

/-- **A step up drops the last segment** and nothing else. -/
theorem segments_eq : segments path.toList = segments parent.toList ++ [last] := by
  rw [← segments_trimSeparators, h.trimmed, segments_append_cons h.isSeparator_sep,
    segments_plain h.last_ne_nil h.plain, h.segments_parent]

end Cut

/-- The key is the same whatever separators, at least one, stand at a place. -/
theorem keyAfter_append_separators {run run' : List Char} (hrun : run ≠ []) (hrun' : run' ≠ [])
    (hseps : ∀ s ∈ run, isSeparator s = true) (hseps' : ∀ s ∈ run', isSeparator s = true)
    (behind : Bool) (front rest : List Char) :
    keyAfter behind (front ++ (run ++ rest)) = keyAfter behind (front ++ (run' ++ rest)) := by
  induction front generalizing behind with
  | nil =>
    rw [List.nil_append, List.nil_append, keyAfter_separators hrun hseps,
      keyAfter_separators hrun' hseps']
  | cons c front ih =>
    rw [List.cons_append, List.cons_append, keyAfter, keyAfter, ih true, ih false]

/-- The path above a path, with what is cut off. -/
structure IsParent (path parent : String) : Prop where
  ne_empty : parent ≠ ""
  isPrefix : parent.toList <+: path.toList
  shorter : parent.length < (trimSeparators path.toList).length
  lastSegment_ne_empty : lastSegment path ≠ ""
  lastSegment_plain : ∀ c ∈ (lastSegment path).toList, isSeparator c = false
  key_eq : comparisonKey (parent ++ "\\" ++ lastSegment path) =
    comparisonKey (String.ofList (trimSeparators path.toList))

/-- What going up by one step does: one segment less, cut at the last separator. -/
theorem isParent_of_above? (h : above? path = some parent) : IsParent path parent := by
  have hne := above?_ne_empty h
  obtain ⟨front, sep, last, h⟩ := exists_cut_of_above? h
  have hback : ∀ s ∈ ['\\'], isSeparator s = true := List.forall_mem_singleton.2 rfl
  have hsep : ∀ s ∈ [sep], isSeparator s = true := by simpa using h.isSeparator_sep
  refine ⟨hne, h.parent_isPrefix.trans h.front_isPrefix, ?_, ?_, ?_, ?_⟩
  · have hlength := h.parent_isPrefix.length_le
    have hpos := List.length_pos_of_ne_nil h.last_ne_nil
    rw [h.trimmed, ← String.length_toList]
    simp only [List.length_append, List.length_cons, List.length_nil] at hlength ⊢
    omega
  · rw [h.lastSegment_eq, Ne, ← String.toList_eq_nil_iff, String.toList_ofList]
    exact h.last_ne_nil
  · rw [h.lastSegment_eq, String.toList_ofList]
    exact h.plain
  · rw [comparisonKey, comparisonKey, h.lastSegment_eq, h.trimmed]
    simp only [String.toList_append, String.toList_ofList, h.parent_eq]
    refine congrArg String.ofList ?_
    have hcons : front ++ sep :: last = front ++ ([sep] ++ last) := rfl
    rw [hcons]
    split
    · rw [List.append_assoc, List.append_assoc]
      exact keyAfter_append_separators (by simp) (by simp)
        (List.forall_mem_cons.2 ⟨h.isSeparator_sep, hback⟩) hsep false front last
    · rw [List.append_assoc]
      exact keyAfter_append_separators (by simp) (by simp) hback hsep false front last

/-! ### The way up -/

/-- A path that is a root: what is left of it ends in a separator. -/
def isRoot (path : String) : Bool := (trimSeparators path.toList).getLast?.any isSeparator

/-- A segment that is taken for the name of a volume. -/
def namesVolume (segment : List Char) : Bool := segment.getLast? == some ':'

/-- Going up from a path comes to its first `k` segments: there is a way up from it, no volume root
stands in the way, and there is a segment left, or the root is written with two separators. -/
def onTheWay (path : String) (k : Nat) : Bool :=
  !isRoot path && (k != 0 || (path.toList.take 2).all isSeparator) &&
    ((segments path.toList).dropLast.drop k).all (! namesVolume ·)

/-- What a path starts with is what its beginning starts with, if that goes beyond separators. -/
theorem all_take_two (h : cs <+: ds) (hcs : ∃ c ∈ cs, isSeparator c = false) :
    (cs.take 2).all isSeparator = (ds.take 2).all isSeparator := by
  obtain ⟨rest, rfl⟩ := h
  match cs with
  | [] => simp at hcs
  | [c] =>
    have hc : isSeparator c = false := by simpa using hcs
    simp [hc]
  | c :: d :: cs => rfl

theorem exists_of_segments {segment : List Char} (h : segment ∈ segments cs) :
    ∃ c ∈ cs, isSeparator c = false := by
  obtain ⟨hmem, hne⟩ := List.mem_filter.1 h
  obtain ⟨c, segment, rfl⟩ := List.exists_cons_of_ne_nil (by simpa using hne : segment ≠ [])
  exact ⟨c, Text.mem_of_mem_splitWhere hmem c List.mem_cons_self⟩

/-- A path without segments consists of separators. -/
theorem forall_isSeparator_of_segments (h : segments cs = []) : ∀ c ∈ cs, isSeparator c = true := by
  induction cs using List.reverseRecOn with
  | nil => exact List.forall_mem_nil _
  | append_singleton cs c ih =>
    rcases hc : isSeparator c with - | -
    · obtain ⟨segment, hsegment, -⟩ := getLast?_segments_concat hc cs
      rw [h] at hsegment
      cases hsegment
    · have hsingle : ∀ s ∈ [c], isSeparator s = true := by simpa using hc
      rw [segments_append_separators hsingle] at h
      exact List.forall_mem_append.2 ⟨ih h, hsingle⟩

/-- A volume root keeps one separator. -/
theorem dropFinalSeparators_volume (hsep : isSeparator sep = true)
    (hseps : ∀ s ∈ seps, isSeparator s = true) (cs : List Char) :
    dropFinalSeparators (seps ++ sep :: ':' :: cs) = sep :: ':' :: cs := by
  induction seps with
  | nil => rw [List.nil_append, dropFinalSeparators, if_neg (by simp)]
  | cons s seps ih =>
    rw [List.forall_mem_cons] at hseps
    rcases seps with - | ⟨s', seps⟩
    · rw [List.singleton_append, dropFinalSeparators, hseps.1,
        bne_iff_ne.2 (isSeparator_ne_colon hsep)]
      exact ih hseps.2
    · rw [List.cons_append, List.cons_append, dropFinalSeparators, hseps.1,
        bne_iff_ne.2 (isSeparator_ne_colon (hseps.2 s' List.mem_cons_self))]
      exact ih hseps.2

/-- A path that does not end in a colon is a root exactly if its last segment names a volume. -/
theorem isRoot_eq (hcolon : path.toList.getLast? ≠ some ':')
    (hne : segments path.toList ≠ []) :
    isRoot path = (segments path.toList).getLast?.any namesVolume := by
  obtain ⟨body, c, seps, hpath, hc, hseps⟩ := exists_of_segments_ne_nil hne
  obtain ⟨segment, hsegment, hlast⟩ := getLast?_segments_concat hc body
  rw [isRoot, hpath, segments_append_separators hseps, hsegment, Option.any_some, namesVolume,
    hlast]
  by_cases hvolume : c = ':'
  · subst hvolume
    -- the first separator behind the colon is kept
    obtain ⟨s, seps, rfl⟩ : ∃ s rest, seps = s :: rest := by
      refine List.exists_cons_of_ne_nil fun hnil ↦ hcolon ?_
      rw [hpath, hnil, List.append_nil, List.getLast?_concat]
    rw [List.forall_mem_cons] at hseps
    rw [trimSeparators, List.reverse_append, List.reverse_cons, List.reverse_concat,
      List.append_assoc, List.singleton_append, dropFinalSeparators_volume hseps.1
      fun s hs ↦ hseps.2 s (List.mem_reverse.1 hs)]
    simp [hseps.1]
  · rw [trimSeparators_append (List.getLast?_concat) hc hvolume hseps, List.getLast?_concat]
    simp [hc, hvolume]

namespace Cut

variable (h : Cut path parent front sep last)

include h

/-- A path with a path above is no root. -/
theorem isRoot_eq_false : isRoot path = false := by
  have hlast : (trimSeparators path.toList).getLast? = some (last.getLast h.last_ne_nil) := by
    rw [h.trimmed, List.getLast?_append, List.getLast?_cons,
      List.getLast?_eq_some_getLast h.last_ne_nil]
    rfl
  rw [isRoot, hlast, Option.any_some, h.plain _ (List.getLast_mem h.last_ne_nil)]

/-- The path above does not end in a colon: a volume root keeps its separator. -/
theorem getLast?_parent : parent.toList.getLast? ≠ some ':' := by
  rw [h.parent_eq]
  split
  · have hsep := isSeparator_ne_colon h.isSeparator_sep
    simpa using hsep
  · assumption

/-- The path above is on the way. -/
theorem onTheWay_parent : onTheWay path (segments parent.toList).length = true := by
  have hfirst : ((segments parent.toList).length != 0 ||
      (path.toList.take 2).all isSeparator) = true := by
    rcases hparent : segments parent.toList with - | ⟨segment, rest⟩
    · -- without a segment above, the path starts with separators up to the one at the cut
      rw [h.segments_parent] at hparent
      have hseps : ∀ c ∈ front ++ [sep], isSeparator c = true :=
        List.forall_mem_append.2
          ⟨forall_isSeparator_of_segments hparent, by simpa using h.isSeparator_sep⟩
      obtain ⟨c, rest, rfl⟩ := List.exists_cons_of_ne_nil h.front_ne_nil
      obtain ⟨behind, hpath⟩ := h.front_isPrefix
      have htake : path.toList.take 2 = ((c :: rest) ++ [sep]).take 2 := by
        rw [← hpath, List.take_append_of_le_length (by simp)]
      rw [htake, List.all_eq_true.2 fun d hd ↦ hseps d (List.mem_of_mem_take hd)]
      rfl
    · rfl
  rw [onTheWay, h.isRoot_eq_false, hfirst, h.segments_eq, List.dropLast_concat, List.drop_length]
  rfl

/-- Further up, the way from a path is the way from the path above it. -/
theorem onTheWay_eq (hk : k < (segments parent.toList).length) :
    onTheWay path k = onTheWay parent k := by
  have hne : segments parent.toList ≠ [] := List.ne_nil_of_length_pos (Nat.zero_lt_of_lt hk)
  obtain ⟨upper, segment, hupper⟩ := (segments parent.toList).eq_nil_or_concat.resolve_left hne
  rw [List.concat_eq_append] at hupper
  have htwo : (parent.toList.take 2).all isSeparator = (path.toList.take 2).all isSeparator :=
    all_take_two (h.parent_isPrefix.trans h.front_isPrefix)
      (exists_of_segments (hupper ▸ List.mem_concat_self))
  have hroot : isRoot parent = namesVolume segment := by
    rw [isRoot_eq h.getLast?_parent hne, hupper, List.getLast?_concat, Option.any_some]
  have hle : k ≤ upper.length := by
    rw [hupper, List.length_append, List.length_singleton] at hk
    omega
  rw [onTheWay, onTheWay, h.isRoot_eq_false, hroot, htwo, h.segments_eq, hupper,
    List.dropLast_concat, List.dropLast_concat, List.drop_append_of_le_length hle, List.all_append]
  simp only [List.all_cons, List.all_nil]
  rcases namesVolume segment <;> simp

end Cut

/-- There is no way up from a path with nothing above it. -/
theorem onTheWay_of_above?_eq_none (h : above? path = none)
    (hk : k < (segments path.toList).length) : onTheWay path k = false := by
  have htrimmed := segments_trimSeparators path.toList
  obtain ⟨seps, hpath, -⟩ := exists_trimSeparators_append path.toList
  -- where there is one segment only, the root is left, and it is written with one separator
  have hsingle (hzero : k = 0) (hplain : (path.toList.take 2).all isSeparator = false) :
      onTheWay path k = false := by
    rw [onTheWay, hzero, hplain]
    simp
  obtain hplain | ⟨front, sep, last, hcut, hsep, hlast⟩ := plain_or_cut (trimSeparators path.toList)
  · rcases htrim : trimSeparators path.toList with - | ⟨c, rest⟩
    · rw [← htrimmed, htrim] at hk
      cases hk
    · rw [← htrimmed, segments_plain (by simp [htrim]) hplain, List.length_singleton] at hk
      rw [htrim] at hplain hpath
      refine hsingle (Nat.lt_one_iff.1 hk) ?_
      rw [hpath]
      simp [hplain c List.mem_cons_self]
  · rw [above?_cut hcut hsep hlast] at h
    rw [← htrimmed, hcut, segments_append_cons hsep, List.length_append] at hk
    by_cases hfront : front = []
    · subst hfront
      rcases last with - | ⟨c, rest⟩
      · cases hk
      · rw [segments_plain (List.cons_ne_nil _ _) hlast] at hk
        rw [hcut] at hpath
        refine hsingle (Nat.lt_one_iff.1 hk) ?_
        rw [hpath]
        simp [hlast c List.mem_cons_self]
    · rw [if_neg hfront] at h
      by_cases hcolon : front.getLast? = some ':'
      · obtain rfl : last = [] := by
          by_contra hnil
          rw [if_pos hcolon, if_neg hnil] at h
          cases h
        rw [onTheWay, isRoot, hcut]
        simp [hsep]
      · rw [if_neg hcolon] at h
        cases h

/-- **Going up drops one segment after the other.** -/
theorem segments_ancestors (path : String) :
    (ancestors path).map (fun q ↦ segments q.toList) =
      ((List.range (segments path.toList).length).reverse.filter (onTheWay path)).map
        fun k ↦ (segments path.toList).take k := by
  induction path using ancestors.induct with
  | case1 path habove =>
    rw [ancestors, habove]
    refine .symm (List.map_eq_nil_iff.2 (List.filter_eq_nil_iff.2 fun k hk ↦ ?_))
    rw [onTheWay_of_above?_eq_none habove (List.mem_range.1 (List.mem_reverse.1 hk))]
    exact Bool.false_ne_true
  | case2 path parent habove ih =>
    obtain ⟨front, sep, last, h⟩ := exists_cut_of_above? habove
    rw [ancestors, habove]
    have hlength : (segments path.toList).length = (segments parent.toList).length + 1 := by
      rw [h.segments_eq, List.length_append, List.length_singleton]
    rw [List.map_cons, ih, hlength, List.range_succ, List.reverse_append, List.reverse_singleton,
      List.singleton_append, List.filter_cons_of_pos h.onTheWay_parent, List.map_cons,
      h.segments_eq, List.take_left]
    refine congrArg _ ?_
    have hbelow {k : ℕ} (hk : k ∈ (List.range (segments parent.toList).length).reverse) :
        k < (segments parent.toList).length := List.mem_range.1 (List.mem_reverse.1 hk)
    rw [List.filter_congr fun k hk ↦ h.onTheWay_eq (hbelow hk)]
    refine List.map_congr_left fun k hk ↦ ?_
    rw [List.take_append_of_le_length (Nat.le_of_lt (hbelow (List.mem_of_mem_filter hk)))]

/-- A path is above another one: it is a beginning of it, and it has the first of its segments, but
not all of them. -/
structure IsAbove (above path : String) : Prop where
  ne_empty : above ≠ ""
  isPrefix : above.toList <+: path.toList
  segments_eq : ∃ k < (segments path.toList).length,
    segments above.toList = (segments path.toList).take k

/-- One step up leads to a path above. -/
theorem IsAbove.of_above? (h : above? path = some parent) : IsAbove parent path := by
  have hparent := isParent_of_above? h
  obtain ⟨front, sep, last, hcut⟩ := exists_cut_of_above? h
  refine ⟨hparent.ne_empty, hparent.isPrefix, (segments parent.toList).length, ?_, ?_⟩
  · rw [hcut.segments_eq, List.length_append, List.length_singleton]
    exact Nat.lt_succ_self _
  · rw [hcut.segments_eq, List.take_left]

/-- Above what is above is above. -/
theorem IsAbove.trans {above : String} (h : IsAbove above parent) (h' : IsAbove parent path) :
    IsAbove above path := by
  obtain ⟨k, hk, hsegments⟩ := h.segments_eq
  obtain ⟨n, hn, hparent⟩ := h'.segments_eq
  rw [hparent, List.length_take, Nat.lt_min] at hk
  refine ⟨h.ne_empty, h.isPrefix.trans h'.isPrefix, k, hk.2, ?_⟩
  rw [hsegments, hparent, List.take_take, Nat.min_eq_left (Nat.le_of_lt hk.1)]

/-- All that is met on the way up is above the path. -/
theorem isAbove_of_mem_ancestors {above : String} (h : above ∈ ancestors path) :
    IsAbove above path := by
  induction path using ancestors.induct with
  | case1 path habove =>
    rw [ancestors, habove] at h
    cases h
  | case2 path parent habove ih =>
    rw [ancestors, habove] at h
    rcases List.mem_cons.1 h with rfl | h
    · exact .of_above? habove
    · exact (ih h).trans (.of_above? habove)

/-- **The way up.** The path above a path is what is left when its last segment is cut off. Going up
from any path ends, and what it comes to are paths above it: the nearest first, and each once, up to
a volume root, but without the root that is written with a single separator. -/
theorem ancestors_climb :
    (∀ {path parent : String}, above? path = some parent → IsParent path parent) ∧
    ∀ path, (∀ above ∈ ancestors path, IsAbove above path) ∧
      (ancestors path).map (fun above ↦ segments above.toList) =
        ((List.range (segments path.toList).length).reverse.filter (onTheWay path)).map
          fun k ↦ (segments path.toList).take k :=
  ⟨isParent_of_above?, fun path ↦ ⟨fun _ ↦ isAbove_of_mem_ancestors, segments_ancestors path⟩⟩

/-- Of two separators the first one stays with the directory above. -/
theorem ancestors_climb_run : above? "C:\\srv\\\\bin/" = some "C:\\srv\\" ∧
    IsParent "C:\\srv\\\\bin/" "C:\\srv\\" :=
  ⟨by decide +kernel, ancestors_climb.1 (by decide +kernel)⟩

/-- The root is above the program, and so is the directory that holds one whose name ends in a
colon, but going up does not come to either of them. -/
theorem ancestors_pass_over :
    (IsAbove "/" "/opt/setup" ∧
      ∀ above ∈ ancestors "/opt/setup", segments above.toList ≠ segments "/".toList) ∧
    IsAbove "/srv" "/srv/x:/setup" ∧
      ∀ above ∈ ancestors "/srv/x:/setup", segments above.toList ≠ segments "/srv".toList := by
  refine ⟨⟨⟨by decide, by decide, 0, by decide, by decide⟩, ?_⟩,
    ⟨by decide, by decide, 1, by decide, by decide⟩, ?_⟩
  · decide +kernel
  · decide +kernel

end ServerSetup.Path
