import Mathlib.Data.List.Infix
import Mathlib.Data.List.TakeWhile
import ApiBindings.Charset.Declared
/-!
# Words, names and searches

The searches for a declared charset walk through a text character by character. What they find is
said here by the places at which words and names stand in it. Main statements: a name is found
behind a `charset=` exactly if it stands there (`charsetName?_eq_some_iff`), the search in a tag
does not look past its first `>` (`lastFound_eq_lastAnywhere`), and a search finds the last place
(`exists_of_lastAnywhere`) or the first tag (`exists_of_firstMeta`).
-/

namespace ApiBindings.Charset

/-! ## Places -/

/-- The word, which is given in lower case, stands in the text in any case, between `before` and
`after`. -/
def StandsIn (word s before after : List Char) : Prop :=
  ∃ w, w.map Text.asciiLower = word ∧ s = before ++ w ++ after

/-- What follows a word that the text begins with. -/
theorem dropWord?_eq_some_iff {word s rest : List Char} :
    dropWord? word s = some rest ↔ StandsIn word s [] rest := by
  unfold StandsIn
  induction word generalizing s with
  | nil => simp [dropWord?, eq_comm]
  | cons a word ih =>
    cases s with
    | nil =>
      simp only [dropWord?, List.map_eq_cons_iff]
      constructor
      · intro h
        cases h
      · rintro ⟨_, ⟨c, w, rfl, -⟩, hs⟩
        simp at hs
    | cons c s =>
      rw [dropWord?]
      by_cases hc : a = Text.asciiLower c
      · rw [if_pos (by simpa using hc), ih]
        constructor
        · rintro ⟨w, hw, rfl⟩
          exact ⟨c :: w, by rw [List.map_cons, hw, hc], rfl⟩
        · rintro ⟨w, hw, hs⟩
          obtain ⟨d, w, rfl, -, hw⟩ := List.map_eq_cons_iff.1 hw
          obtain ⟨-, rfl⟩ := List.cons_eq_cons.1 hs
          exact ⟨w, hw, rfl⟩
      · rw [if_neg (by simpa using hc)]
        constructor
        · intro h
          cases h
        · rintro ⟨w, hw, hs⟩
          obtain ⟨d, w, rfl, hd, -⟩ := List.map_eq_cons_iff.1 hw
          obtain ⟨rfl, -⟩ := List.cons_eq_cons.1 hs
          exact absurd hd.symm hc

/-- A word that stands in a part of a text stands in the text. -/
theorem StandsIn.of_isInfix {word s t before after : List Char}
    (h : StandsIn word s before after) (hst : s <:+: t) :
    ∃ before' after', StandsIn word t before' after' := by
  obtain ⟨w, hw, rfl⟩ := h
  obtain ⟨front, back, rfl⟩ := hst
  exact ⟨front ++ before, after ++ back, w, hw, by simp⟩

/-- A word stands in a text where it begins what follows. -/
theorem standsIn_iff {word s before after : List Char} :
    StandsIn word s before after ↔ ∃ t, s = before ++ t ∧ StandsIn word t [] after := by
  unfold StandsIn
  constructor
  · rintro ⟨w, hw, rfl⟩
    exact ⟨w ++ after, List.append_assoc _ _ _, w, hw, rfl⟩
  · rintro ⟨_, rfl, w, hw, rfl⟩
    exact ⟨w, hw, (List.append_assoc _ _ _).symm⟩

/-- Two occurrences of a word at one place are one. -/
theorem StandsIn.unique {word s before after before' after' : List Char}
    (h : StandsIn word s before after) (h' : StandsIn word s before' after')
    (hlength : before.length = before'.length) : before = before' ∧ after = after' := by
  obtain ⟨w, rfl, rfl⟩ := h
  obtain ⟨w', hw, hs⟩ := h'
  have hwords : w.length = w'.length := by
    have := congrArg List.length hw
    rw [List.length_map, List.length_map] at this
    exact this.symm
  obtain ⟨hfront, hafter⟩ := List.append_inj hs (by simp [hlength, hwords])
  exact ⟨(List.append_inj hfront hlength).1, hafter⟩

/-! ## Names -/

/-- The name stands behind at most one quote and any blanks, and goes on for as long as there are
characters of a name. -/
def NameBehind (s name : List Char) : Prop :=
  ∃ quote blanks after, s = quote ++ blanks ++ name ++ after ∧
    quote.length ≤ 1 ∧ (∀ c ∈ quote, isQuote c = true) ∧ (∀ c ∈ blanks, Text.isBlank c = true) ∧
    name ≠ [] ∧ (∀ c ∈ name, isNameChar c = true) ∧ ∀ c, after.head? = some c → isNameChar c = false

/-- A quote is no blank and stands in no name. -/
theorem not_isQuote {c : Char} (h : Text.isBlank c = true ∨ isNameChar c = true) :
    isQuote c = false := by
  rw [Bool.eq_false_iff]
  intro hquote
  simp only [isQuote, Bool.or_eq_true, beq_iff_eq] at hquote
  rcases hquote with rfl | rfl
  · exact absurd h (by decide)
  · exact absurd h (by decide)

/-- A blank stands in no name. -/
theorem isBlank_of_isNameChar {c : Char} (h : isNameChar c = true) : Text.isBlank c = false := by
  simp only [isNameChar, Bool.not_eq_true', Bool.or_eq_false_iff] at h
  exact h.1.1.1

/-- The name that a text begins with has only characters of names, and at least one. -/
theorem leadingName?_eq_some_iff {s name : List Char} :
    leadingName? s = some name ↔ s.takeWhile isNameChar = name ∧ name ≠ [] := by
  unfold leadingName?
  split
  · rename_i hempty
    constructor
    · intro h
      cases h
    · rintro ⟨rfl, hname⟩
      exact absurd (List.isEmpty_iff.1 hempty) hname
  · rename_i hempty
    rw [Option.some.injEq]
    constructor
    · rintro rfl
      exact ⟨rfl, by simpa using hempty⟩
    · exact fun h => h.1

/-- The quote that is dropped. -/
theorem exists_eq_append_dropQuote (s : List Char) :
    ∃ quote, s = quote ++ dropQuote s ∧ quote.length ≤ 1 ∧ ∀ c ∈ quote, isQuote c = true := by
  cases s with
  | nil => exact ⟨[], rfl, Nat.zero_le 1, by simp⟩
  | cons c s =>
    rw [dropQuote]
    split
    · rename_i hquote
      exact ⟨[c], rfl, Nat.le_refl 1, by simpa using hquote⟩
    · exact ⟨[], rfl, Nat.zero_le 1, by simp⟩

/-- A quote is dropped, if what follows it does not begin with one. -/
theorem dropQuote_append {quote s : List Char} (hlength : quote.length ≤ 1)
    (hquote : ∀ c ∈ quote, isQuote c = true) (hs : ∀ c, s.head? = some c → isQuote c = false) :
    dropQuote (quote ++ s) = s := by
  match quote with
  | [] =>
    cases s with
    | nil => rfl
    | cons c s =>
      rw [List.nil_append, dropQuote, if_neg]
      simp [hs c rfl]
  | [q] => rw [List.singleton_append, dropQuote, if_pos (hquote q (by simp))]
  | _ :: _ :: _ => simp at hlength

/-- A name is found behind a quote and blanks exactly if it stands there. -/
theorem leadingName?_eq_some_iff_nameBehind {s name : List Char} :
    leadingName? ((dropQuote s).dropWhile Text.isBlank) = some name ↔ NameBehind s name := by
  rw [leadingName?_eq_some_iff]
  constructor
  · rintro ⟨htake, hname⟩
    obtain ⟨quote, hs, hlength, hquote⟩ := exists_eq_append_dropQuote s
    refine ⟨quote, (dropQuote s).takeWhile Text.isBlank,
      ((dropQuote s).dropWhile Text.isBlank).dropWhile isNameChar, ?_, hlength, hquote, ?_, hname,
      ?_, ?_⟩
    · rw [← htake, List.append_assoc, List.append_assoc, List.takeWhile_append_dropWhile,
        List.takeWhile_append_dropWhile]
      exact hs
    · exact fun c hc => List.mem_takeWhile_imp hc
    · rw [← htake]
      exact fun c hc => List.mem_takeWhile_imp hc
    · intro c hc
      have hstop := List.head?_dropWhile_not isNameChar ((dropQuote s).dropWhile Text.isBlank)
      rw [hc] at hstop
      simpa using hstop
  · rintro ⟨quote, blanks, after, rfl, hlength, hquote, hblanks, hname, hchars, hafter⟩
    obtain ⟨c, cs, rfl⟩ := List.exists_cons_of_ne_nil hname
    have hc : isNameChar c = true := hchars c (by simp)
    have hhead : ∀ d, (blanks ++ (c :: cs ++ after)).head? = some d → isQuote d = false := by
      intro d hd
      cases blanks with
      | nil =>
        obtain rfl : c = d := by simpa using hd
        exact not_isQuote (Or.inr hc)
      | cons b blanks =>
        obtain rfl : b = d := by simpa using hd
        exact not_isQuote (Or.inl (hblanks b (by simp)))
    have hstop : after.takeWhile isNameChar = [] := by
      cases after with
      | nil => rfl
      | cons d after => exact List.takeWhile_cons_of_neg (by simp [hafter d rfl])
    refine ⟨?_, hname⟩
    rw [List.append_assoc, List.append_assoc, dropQuote_append hlength hquote hhead,
      List.dropWhile_append_of_pos hblanks, List.cons_append,
      List.dropWhile_cons_of_neg (by simp [isBlank_of_isNameChar hc]), ← List.cons_append,
      List.takeWhile_append_of_pos hchars, hstop, List.append_nil]

/-- What is found behind `charset=`. -/
theorem charsetName?_eq_some_iff {s name : List Char} :
    charsetName? s = some name ↔
      ∃ after, StandsIn "charset=".toList s [] after ∧ NameBehind after name := by
  unfold charsetName?
  simp only [Option.bind_eq_some_iff, dropWord?_eq_some_iff, leadingName?_eq_some_iff_nameBehind]

/-! ## Tags -/

/-- What stands behind the name of a tag up to the first `>`. -/
def segment (behind : List Char) : List Char := behind.takeWhile (· != '>')

/-- A word that holds no `>` is found in a text exactly if it is found before the first `>`. -/
theorem dropWord?_append_stop {word : List Char} (hword : '>' ∉ word) (s t : List Char) :
    dropWord? word (s ++ '>' :: t) = (dropWord? word s).map (· ++ '>' :: t) := by
  induction word generalizing s with
  | nil => simp [dropWord?]
  | cons a word ih =>
    rw [List.mem_cons, not_or] at hword
    cases s with
    | nil =>
      have hlower : Text.asciiLower '>' = '>' := by decide
      rw [List.nil_append, dropWord?, dropWord?, hlower, if_neg (by simpa using Ne.symm hword.1)]
      rfl
    | cons c s =>
      rw [List.cons_append, dropWord?, dropWord?]
      split
      · exact ih hword.2 s
      · rfl

/-- A name ends at a `>`. -/
theorem leadingName?_append_stop (s t : List Char) :
    leadingName? (s ++ '>' :: t) = leadingName? s := by
  have htake : (s ++ '>' :: t).takeWhile isNameChar = s.takeWhile isNameChar := by
    rw [List.takeWhile_append]
    split
    · rename_i hall
      rw [List.takeWhile_cons_of_neg (by decide), List.append_nil,
        (List.takeWhile_prefix _).eq_of_length hall]
    · rfl
  unfold leadingName?
  rw [htake]

/-- What stands from a `>` on does not matter for the name behind a `charset=`. -/
theorem charsetName?_append_stop (s t : List Char) :
    charsetName? (s ++ '>' :: t) = charsetName? s := by
  have hquote : ∀ u, dropQuote (u ++ '>' :: t) = dropQuote u ++ '>' :: t := by
    intro u
    cases u with
    | nil => rfl
    | cons c u =>
      rw [List.cons_append, dropQuote, dropQuote]
      split
      · rfl
      · rfl
  have hblank : ∀ u : List Char, (u ++ '>' :: t).dropWhile Text.isBlank =
      u.dropWhile Text.isBlank ++ '>' :: t := by
    intro u
    rw [List.dropWhile_append]
    split
    · rename_i hempty
      rw [List.dropWhile_cons_of_neg (by decide), List.isEmpty_iff.1 hempty, List.nil_append]
    · rfl
  unfold charsetName?
  rw [dropWord?_append_stop (by decide), Option.bind_map]
  simp only [Function.comp_def, hquote, hblank, leadingName?_append_stop]

/-- The search that passes over no `>` is the search in the segment, if what stands from a `>` on
does not matter. -/
theorem lastFound_eq_lastAnywhere {find? : List Char → Option (List Char)}
    (h : ∀ s t, find? (s ++ '>' :: t) = find? s) (s : List Char) :
    lastFound find? s = lastAnywhere find? (segment s) := by
  induction s with
  | nil => rfl
  | cons c s ih =>
    rw [lastFound]
    by_cases hc : c = '>'
    · subst hc
      rfl
    · have hsegment : segment (c :: s) = c :: segment s :=
        List.takeWhile_cons_of_pos (by simpa using hc)
      have hfind : find? (c :: segment s) = find? (c :: s) := by
        have hsplit : segment s ++ s.dropWhile (· != '>') = s := List.takeWhile_append_dropWhile
        cases hrest : s.dropWhile (· != '>') with
        | nil =>
          rw [hrest, List.append_nil] at hsplit
          rw [hsplit]
        | cons d rest =>
          have hd := List.head?_dropWhile_not (· != '>') s
          rw [hrest] at hd
          obtain rfl : d = '>' := by simpa using hd
          rw [hrest] at hsplit
          rw [← h (c :: segment s) rest, List.cons_append, hsplit]
      rw [if_neg (by simpa using hc), ih, hsegment, lastAnywhere, hfind]

/-! ## Searches -/

section Searches

variable {search find? : List Char → Option (List Char)}

/-- A search that passes over no place finds nothing only where there is nothing. -/
theorem eq_none_of_search (hnil : find? [] = none)
    (hcons : ∀ c s, search (c :: s) = none → find? (c :: s) = none ∧ search s = none)
    {s : List Char} (h : search s = none) :
    ∀ before after, s = before ++ after → find? after = none := by
  induction s with
  | nil =>
    intro before after hs
    obtain ⟨-, rfl⟩ := List.append_eq_nil_iff.1 hs.symm
    exact hnil
  | cons c s ih =>
    obtain ⟨hhere, hbehind⟩ := hcons c s h
    intro before after hs
    cases before with
    | nil =>
      rw [← show c :: s = after from hs]
      exact hhere
    | cons d before => exact ih hbehind before after (List.cons_eq_cons.1 hs).2

/-- What a search finds, it finds at some place. -/
theorem exists_of_search (hnil : search [] = none)
    (hcons : ∀ c s x, search (c :: s) = some x → find? (c :: s) = some x ∨ search s = some x)
    {s x : List Char} (h : search s = some x) :
    ∃ before after, s = before ++ after ∧ find? after = some x := by
  induction s with
  | nil =>
    rw [hnil] at h
    cases h
  | cons c s ih =>
    rcases hcons c s x h with hhere | hbehind
    · exact ⟨[], c :: s, rfl, hhere⟩
    · obtain ⟨before, after, rfl, hfind⟩ := ih hbehind
      exact ⟨c :: before, after, rfl, hfind⟩

theorem eq_none_of_lastAnywhere (hnil : find? [] = none) {s : List Char}
    (h : lastAnywhere find? s = none) :
    ∀ before after, s = before ++ after → find? after = none := by
  refine eq_none_of_search hnil (fun c s hs => ?_) h
  rw [lastAnywhere, Option.or_eq_none_iff] at hs
  exact hs.symm

/-- Behind the place where something is found last, nothing is found. -/
theorem exists_of_lastAnywhere (hnil : find? [] = none) {s x : List Char}
    (h : lastAnywhere find? s = some x) :
    ∃ before after, s = before ++ after ∧ find? after = some x ∧
      ∀ before' after', s = before' ++ after' → before.length < before'.length →
        find? after' = none := by
  induction s with
  | nil => cases h
  | cons c s ih =>
    rw [lastAnywhere, Option.or_eq_some_iff] at h
    rcases h with h | ⟨hnone, hhere⟩
    · obtain ⟨before, after, rfl, hfind, hlast⟩ := ih h
      refine ⟨c :: before, after, rfl, hfind, fun before' after' hs hlt => ?_⟩
      cases before' with
      | nil => exact absurd hlt (Nat.not_lt_zero _)
      | cons d before' =>
        exact hlast before' after' (List.cons_eq_cons.1 hs).2 (Nat.lt_of_succ_lt_succ hlt)
    · refine ⟨[], c :: s, rfl, hhere, fun before' after' hs hlt => ?_⟩
      cases before' with
      | nil => exact absurd hlt (Nat.not_lt_zero _)
      | cons d before' =>
        exact eq_none_of_lastAnywhere hnil hnone before' after' (List.cons_eq_cons.1 hs).2

/-- What is found in a tag stands at some place behind its name. -/
theorem exists_of_lastFound {s x : List Char} (h : lastFound find? s = some x) :
    ∃ before after, s = before ++ after ∧ find? after = some x := by
  refine exists_of_search rfl (fun c s x hs => ?_) h
  rw [lastFound] at hs
  split at hs
  · cases hs
  · rw [Option.or_eq_some_iff] at hs
    exact hs.symm.imp And.right id

/-- What is found in the tag that a text begins with, at least one character behind its name. -/
def foundInMeta (find? : List Char → Option (List Char)) (s : List Char) : Option (List Char) :=
  match dropWord? "<meta".toList s with
  | some (d :: rest) => if d == '>' then none else lastFound find? rest
  | _ => none

theorem firstMeta_cons (c : Char) (s : List Char) :
    firstMeta find? (c :: s) = (foundInMeta find? (c :: s)).or (firstMeta find? s) := rfl

theorem eq_none_of_firstMeta {s : List Char} (h : firstMeta find? s = none) :
    ∀ before after, s = before ++ after → foundInMeta find? after = none := by
  refine eq_none_of_search rfl (fun c s hs => ?_) h
  rw [firstMeta_cons, Option.or_eq_none_iff] at hs
  exact hs

/-- Before the tag in which something is found first, nothing is found. -/
theorem exists_of_firstMeta {s x : List Char} (h : firstMeta find? s = some x) :
    ∃ before after, s = before ++ after ∧ foundInMeta find? after = some x ∧
      ∀ before' after', s = before' ++ after' → before'.length < before.length →
        foundInMeta find? after' = none := by
  induction s with
  | nil => cases h
  | cons c s ih =>
    rw [firstMeta_cons, Option.or_eq_some_iff] at h
    rcases h with hhere | ⟨hnone, h⟩
    · exact ⟨[], c :: s, rfl, hhere, fun _ _ _ hlt => absurd hlt (Nat.not_lt_zero _)⟩
    · obtain ⟨before, after, rfl, hfind, hfirst⟩ := ih h
      refine ⟨c :: before, after, rfl, hfind, fun before' after' hs hlt => ?_⟩
      cases before' with
      | nil =>
        rw [← show c :: (before ++ after) = after' from hs]
        exact hnone
      | cons d before' =>
        exact hfirst before' after' (List.cons_eq_cons.1 hs).2 (Nat.lt_of_succ_lt_succ hlt)

end Searches

end ApiBindings.Charset
