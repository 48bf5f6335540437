import ApiBindings.Text.Pieces
import Mathlib.Data.List.DropRight
import Mathlib.Data.List.Infix
/-!
# Trimmed texts and pieces

Where what is left of a text, or cut from it, stands in it. Main statement: a word without blanks
begins the trimmed text exactly if it begins what follows the blanks at the front, and nothing
counts for it that stands from another character on (`isPrefix_trimmed_append_iff`). Words and lines
that are joined: the squeezed words of a text end in no blank (`isBlank_of_getLast?_squeeze`), and
lines are cut where they were joined (`lines_unlines`).
-/

namespace ApiBindings.Text

/-- Trimming the end leaves what stands up to a character that is not blank. -/
theorem trimmedEnd_of_not_isBlank (before after : List Char) {c : Char} (h : isBlank c = false) :
    trimmedEnd (before ++ c :: after) = before ++ c :: trimmedEnd after := by
  have hstop : (c :: before.reverse).dropWhile isBlank = c :: before.reverse :=
    List.dropWhile_cons_of_neg (by simp [h])
  unfold trimmedEnd
  rw [List.reverse_append, List.reverse_cons, List.append_assoc, List.singleton_append,
    List.dropWhile_append, hstop]
  split
  · rename_i hblank
    rw [List.isEmpty_iff.1 hblank]
    simp
  · simp

/-- A blank at the end goes with those before it. -/
theorem trimmedEnd_concat (s : List Char) {c : Char} (h : isBlank c = true) :
    trimmedEnd (s ++ [c]) = trimmedEnd s := by
  simp [trimmedEnd, h]

/-- A text that ends in no blank is left as it is. -/
theorem trimmedEnd_eq_self {s : List Char} (h : ∀ c, s.getLast? = some c → isBlank c = false) :
    trimmedEnd s = s := by
  rcases List.eq_nil_or_concat s with rfl | ⟨before, c, rfl⟩
  · rfl
  · rw [List.concat_eq_append] at h ⊢
    rw [trimmedEnd_of_not_isBlank before [] (h c (by simp))]
    rfl

/-- A text without a blank at either end is left as it is. -/
theorem trimmed_eq_self {s : List Char} (hfirst : ∀ c, s.head? = some c → isBlank c = false)
    (hlast : ∀ c, s.getLast? = some c → isBlank c = false) : trimmed s = s := by
  have hfront : s.dropWhile isBlank = s := by
    cases s with
    | nil => rfl
    | cons c cs => exact List.dropWhile_cons_of_neg (by simp [hfirst c rfl])
  have htrim : trimmed s = trimmedEnd (s.dropWhile isBlank) := rfl
  rw [htrim, hfront, trimmedEnd_eq_self hlast]

/-- What is left of a text when its end is trimmed begins it. -/
theorem trimmedEnd_isPrefix (s : List Char) : trimmedEnd s <+: s := by
  have hsuffix : s.reverse.dropWhile isBlank <:+ s.reverse := List.dropWhile_suffix _
  rw [← List.reverse_prefix, List.reverse_reverse] at hsuffix
  exact hsuffix

/-- A trimmed text is a part of the text. -/
theorem trimmed_isInfix (s : List Char) : trimmed s <:+: s :=
  (trimmedEnd_isPrefix (s.dropWhile isBlank)).isInfix.trans (List.dropWhile_suffix _).isInfix

/-- A trimmed text is left as it is. -/
theorem trimmed_trimmed (s : List Char) : trimmed (trimmed s) = trimmed s := by
  have hend : ∀ t, trimmedEnd (trimmedEnd t) = trimmedEnd t := by
    intro t
    unfold trimmedEnd
    rw [List.reverse_reverse, List.dropWhile_idempotent]
  have htrim : ∀ t, trimmed t = trimmedEnd (t.dropWhile isBlank) := fun _ => rfl
  rw [htrim s]
  cases hs : s.dropWhile isBlank with
  | nil => rfl
  | cons c t =>
    have hc := List.head?_dropWhile_not isBlank s
    rw [hs, List.head?_cons] at hc
    have hkeeps : trimmedEnd (c :: t) = c :: trimmedEnd t :=
      trimmedEnd_of_not_isBlank [] t (by simpa using hc)
    rw [htrim, hkeeps, List.dropWhile_cons_of_neg (by simpa using hc), ← hkeeps, hend]

/-- The first piece of a text begins it, and each piece is a part of it. -/
theorem isInfix_of_mem_pieces (p : Char → Bool) (s : List Char) :
    (pieces p s).headD [] <+: s ∧ ∀ w ∈ pieces p s, w <:+: s := by
  induction s with
  | nil => simp
  | cons c s ih =>
    obtain ⟨hhead, hall⟩ := ih
    have hbehind : ∀ w ∈ pieces p s, w <:+: c :: s := by
      intro w hw
      exact (hall w hw).trans (List.suffix_cons c s).isInfix
    rw [pieces_cons]
    split
    · refine ⟨List.nil_prefix, ?_⟩
      intro w hw
      rcases List.mem_cons.1 hw with rfl | hw
      · exact List.nil_infix
      · exact hbehind w hw
    · have hfirst : c :: (pieces p s).headD [] <+: c :: s := List.cons_prefix_cons.2 ⟨rfl, hhead⟩
      refine ⟨hfirst, ?_⟩
      intro w hw
      rcases List.mem_cons.1 hw with rfl | hw
      · exact hfirst.isInfix
      · exact hbehind w (List.mem_of_mem_tail hw)

/-- A word without blanks begins a text exactly if it begins what trimming the end leaves. -/
theorem isPrefix_trimmedEnd_iff {w s : List Char} (hw : ∀ c ∈ w, isBlank c = false) :
    w <+: trimmedEnd s ↔ w <+: s := by
  constructor
  · intro h
    exact h.trans (trimmedEnd_isPrefix s)
  · rintro ⟨after, rfl⟩
    -- the last character of the word stops the trimming
    rcases List.eq_nil_or_concat w with rfl | ⟨before, c, rfl⟩
    · exact List.nil_prefix
    · have hc : isBlank c = false := hw c (by simp)
      rw [List.concat_eq_append, List.append_assoc, List.singleton_append,
        trimmedEnd_of_not_isBlank before after hc]
      exact ⟨trimmedEnd after, by simp⟩

/-- A word begins a text exactly if it begins what stands before a character that the word does not
hold. -/
theorem isPrefix_append_cons_iff {w s rest : List Char} {c : Char} (hc : c ∉ w) :
    w <+: s ++ c :: rest ↔ w <+: s := by
  constructor
  · intro h
    rcases Nat.lt_or_ge s.length w.length with hlt | hle
    · -- a longer word would reach the character
      have hwhole : s ++ [c] <+: s ++ c :: rest := ⟨rest, by simp⟩
      have hmem : s ++ [c] <+: w :=
        List.prefix_of_prefix_length_le hwhole h (by simpa using Nat.succ_le_of_lt hlt)
      exact absurd (hmem.subset (by simp)) hc
    · exact List.prefix_of_prefix_length_le h (List.prefix_append s _) hle
  · intro h
    exact h.trans (List.prefix_append s _)

/-- What a text begins with behind its blanks, any text that it begins begins with too. -/
theorem isPrefix_dropWhile_of_isPrefix {w s t : List Char} (hst : s <+: t)
    (h : w <+: s.dropWhile isBlank) : w <+: t.dropWhile isBlank := by
  obtain ⟨rest, rfl⟩ := hst
  rw [List.dropWhile_append]
  cases hs : s.dropWhile isBlank with
  | nil =>
    rw [hs, List.prefix_nil] at h
    rw [h]
    exact List.nil_prefix
  | cons d ds =>
    rw [hs] at h
    exact h.trans (List.prefix_append _ _)

/-- **What a trimmed text begins with.** A word without blanks begins a trimmed text exactly if it
begins it behind its blanks, and then it stands before any character `c` that it does not hold and
that is not blank. -/
theorem isPrefix_trimmed_append_iff {w s tail : List Char} {c : Char}
    (hw : ∀ d ∈ w, isBlank d = false) (hc : c ∉ w) (hblank : isBlank c = false)
    (htail : tail = [] ∨ ∃ rest, tail = c :: rest) :
    w <+: trimmed (s ++ tail) ↔ w <+: s.dropWhile isBlank := by
  have htrim : trimmed (s ++ tail) = trimmedEnd ((s ++ tail).dropWhile isBlank) := rfl
  rw [htrim, isPrefix_trimmedEnd_iff hw]
  rcases htail with rfl | ⟨rest, rfl⟩
  · rw [List.append_nil]
  · rw [List.dropWhile_append]
    cases hs : s.dropWhile isBlank with
    | nil =>
      -- the text is blank up to the character, which the word does not begin with
      rw [List.isEmpty_nil, if_pos rfl, List.dropWhile_cons_of_neg (by simp [hblank])]
      have hnot : w <+: [] ++ c :: rest ↔ w <+: [] := isPrefix_append_cons_iff hc
      rwa [List.nil_append] at hnot
    | cons d ds =>
      rw [List.isEmpty_cons, if_neg (by decide)]
      exact isPrefix_append_cons_iff hc

/-! ## Words and lines -/

/-- Squeezed words end in no blank. -/
theorem isBlank_of_getLast?_squeeze {s : String} {c : Char}
    (h : (squeeze s).toList.getLast? = some c) : isBlank c = false := by
  have hjoined : ∀ ws : List (List Char), (∀ w ∈ ws, w ≠ [] ∧ ∀ d ∈ w, isBlank d = false) →
      (List.intercalate [' '] ws).getLast? = some c → isBlank c = false := by
    intro ws hws hc
    induction ws with
    | nil => cases hc
    | cons w ws ih =>
      rw [List.forall_mem_cons] at hws
      cases ws with
      | nil => exact hws.1.2 c (List.mem_of_getLast? (by simpa using hc))
      | cons w' ws =>
        have hne : List.intercalate [' '] (w' :: ws) ≠ [] := by
          have hw' := (hws.2 w' (by simp)).1
          cases ws <;> simp [List.intercalate_cons_cons, hw']
        rw [List.intercalate_cons_cons, List.getLast?_append_of_ne_nil _ hne] at hc
        exact ih hws.2 hc
  unfold squeeze at h
  rw [String.toList_ofList] at h
  refine hjoined _ ?_ h
  intro w hw
  obtain ⟨hpiece, hne⟩ := List.mem_filter.1 hw
  exact ⟨by simpa using hne, not_separator_of_mem_pieces isBlank s.toList w hpiece⟩

/-- Lines joined by line feeds are the lines of the text. -/
theorem lines_unlines {ls : List String} (hls : ls ≠ []) (h : ∀ l ∈ ls, '\n' ∉ l.toList) :
    lines (unlines ls) = ls := by
  have hjoin : (unlines ls).toList = List.intercalate ['\n'] (ls.map String.toList) :=
    String.toList_intercalate
  have hfeed : ∀ l ∈ ls.map String.toList, '\n' ∉ l := by
    intro l hl
    obtain ⟨line, hline, rfl⟩ := List.mem_map.1 hl
    exact h line hline
  unfold lines
  rw [hjoin, pieces_eq_splitOnP]
  have hsplit := List.splitOn_intercalate '\n' hfeed (by simpa using hls)
  unfold List.splitOn at hsplit
  rw [hsplit, List.map_map]
  simp [Function.comp_def]

end ApiBindings.Text
