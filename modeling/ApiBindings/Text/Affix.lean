/-!
# Texts that begin with or contain a given text

Removal of a given beginning, the stretch of characters before one that stops it, the first
occurrence of a given text, and the parts between its occurrences. Main statements: what is cut
apart joins to the text it came from (`eq_of_cut?`, `intercalate_splitOn`), and only a text without
the separator is not cut (`cut?_eq_none_iff`).
-/

namespace ApiBindings.Text

/-! ## Beginnings -/

/-- What follows the beginning `p`, if the text begins with it. -/
def dropStart? : List Char → List Char → Option (List Char)
  | [], s => some s
  | _ :: _, [] => none
  | p :: ps, c :: cs => if p == c then dropStart? ps cs else none

/-- A text begins with `p` exactly if it is `p` followed by what is left. -/
theorem dropStart?_eq_some_iff {p s rest : List Char} :
    dropStart? p s = some rest ↔ s = p ++ rest := by
  induction p generalizing s with
  | nil => simp [dropStart?]
  | cons a p ih =>
    cases s with
    | nil => simp [dropStart?]
    | cons c s =>
      by_cases h : a = c
      · simp [dropStart?, h, ih]
      · simp [dropStart?, h, Ne.symm h]

/-- Nothing is left behind `p` exactly if the text does not begin with it. -/
theorem dropStart?_eq_none_iff {p s : List Char} : dropStart? p s = none ↔ ¬ p <+: s := by
  rw [Option.eq_none_iff_forall_ne_some]
  constructor
  · rintro h ⟨rest, rfl⟩
    exact h rest (dropStart?_eq_some_iff.2 rfl)
  · rintro h rest hrest
    exact h ⟨rest, (dropStart?_eq_some_iff.1 hrest).symm⟩

/-- The text begins with `p`. -/
def startsWith (s p : String) : Bool := p.toList.isPrefixOf s.toList

/-! ## Stretches -/

/-- A stretch of characters with a property ends before one without it. -/
theorem takeWhile_stop {p : Char → Bool} {s : List Char} (hs : ∀ c ∈ s, p c = true) {stop : Char}
    (hstop : p stop = false) (rest : List Char) : (s ++ stop :: rest).takeWhile p = s := by
  rw [List.takeWhile_append_of_pos hs, List.takeWhile_cons_of_neg (by simp [hstop]),
    List.append_nil]

/-- Behind the stretch it is the first character that is left. -/
theorem dropWhile_stop {p : Char → Bool} {s : List Char} (hs : ∀ c ∈ s, p c = true) {stop : Char}
    (hstop : p stop = false) (rest : List Char) :
    (s ++ stop :: rest).dropWhile p = stop :: rest := by
  rw [List.dropWhile_append_of_pos hs, List.dropWhile_cons_of_neg (by simp [hstop])]

/-! ## Occurrences -/

/-- What stands before and after the first occurrence of `sep`. -/
def cut? (sep : List Char) : List Char → Option (List Char × List Char)
  | [] => if sep.isEmpty then some ([], []) else none
  | c :: cs =>
    match dropStart? sep (c :: cs) with
    | some rest => some ([], rest)
    | none => (cut? sep cs).map fun (before, after) => (c :: before, after)

/-- The two sides of a cut and the separator make up the text. -/
theorem eq_of_cut? {sep s before after : List Char} (h : cut? sep s = some (before, after)) :
    s = before ++ sep ++ after := by
  induction s generalizing before with
  | nil =>
    cases sep with
    | nil => simp_all [cut?]
    | cons a sep => simp [cut?] at h
  | cons c s ih =>
    unfold cut? at h
    split at h
    · rename_i rest hr
      obtain ⟨rfl, rfl⟩ := by simpa using h
      simpa using dropStart?_eq_some_iff.1 hr
    · obtain ⟨⟨b, a⟩, hb, he⟩ := Option.map_eq_some_iff.1 h
      obtain ⟨rfl, rfl⟩ := by simpa using he
      simpa using ih hb

/-- There is no cut exactly if the separator does not stand in the text. -/
theorem cut?_eq_none_iff {sep s : List Char} : cut? sep s = none ↔ ¬ sep <:+: s := by
  induction s with
  | nil => simp [cut?]
  | cons c s ih =>
    rw [List.infix_cons_iff, not_or, ← ih, ← dropStart?_eq_none_iff, cut?]
    split
    · rename_i rest hrest
      simp [hrest]
    · rename_i hnone
      simp [hnone]

/-- What stands after a cut is an end of the text. -/
theorem cut?_suffix {sep s before after : List Char} (h : cut? sep s = some (before, after)) :
    after <:+ s :=
  ⟨before ++ sep, (eq_of_cut? h).symm⟩

/-- What stands before a cut begins the text. -/
theorem cut?_prefix {sep s before after : List Char} (h : cut? sep s = some (before, after)) :
    before <+: s :=
  ⟨sep ++ after, by rw [eq_of_cut? h, List.append_assoc]⟩

/-- A text is cut at a character where that first stands. -/
theorem cut?_singleton {c : Char} {before after : List Char} (h : c ∉ before) :
    cut? [c] (before ++ c :: after) = some (before, after) := by
  induction before with
  | nil => simp [cut?, dropStart?]
  | cons d before ih =>
    rw [List.mem_cons, not_or] at h
    have hdrop : dropStart? [c] (d :: (before ++ c :: after)) = none := by
      simp [dropStart?, h.1]
    rw [List.cons_append, cut?, hdrop]
    dsimp only
    rw [ih h.2]
    rfl

/-- The two sides of a cut at a character, which does not stand in the first. -/
theorem cut?_singleton_eq_some_iff {c : Char} {s before after : List Char} :
    cut? [c] s = some (before, after) ↔ s = before ++ c :: after ∧ c ∉ before := by
  constructor
  · intro h
    have hmem : c ∈ s := by simp [eq_of_cut? h]
    obtain ⟨first, rest, rfl, hfirst⟩ := List.eq_append_cons_of_mem hmem
    rw [cut?_singleton hfirst] at h
    cases h
    exact ⟨rfl, hfirst⟩
  · rintro ⟨rfl, h⟩
    exact cut?_singleton h

/-- A cut at a separator that is not empty leaves less than the text. -/
theorem length_lt_of_cut? {sep s before after : List Char} (hsep : sep ≠ [])
    (h : cut? sep s = some (before, after)) :
    before.length < s.length ∧ after.length < s.length := by
  have := List.length_pos_iff.2 hsep
  have hs := congrArg List.length (eq_of_cut? h)
  simp only [List.length_append] at hs
  omega

/-- The parts of a text between the occurrences of the separator `a :: sep`, found from the left. -/
def splitOn (a : Char) (sep s : List Char) : List (List Char) :=
  match _h : cut? (a :: sep) s with
  | none => [s]
  | some (before, after) => before :: splitOn a sep after
termination_by s.length
decreasing_by exact (length_lt_of_cut? (by simp) _h).2

/-- There is always a first part. -/
theorem splitOn_ne_nil (a : Char) (sep s : List Char) : splitOn a sep s ≠ [] := by
  rw [splitOn]; split <;> simp

/-- The parts joined by the separator are the text. -/
theorem intercalate_splitOn (a : Char) (sep s : List Char) :
    List.intercalate (a :: sep) (splitOn a sep s) = s := by
  fun_induction splitOn a sep s with
  | case1 => simp
  | case2 s before after h ih =>
    rw [List.intercalate_cons_of_ne_nil (splitOn_ne_nil a sep after), ih]
    simpa using (eq_of_cut? h).symm

/-- No part is longer than the text. -/
theorem length_le_of_mem_splitOn {a : Char} {sep s p : List Char} (h : p ∈ splitOn a sep s) :
    p.length ≤ s.length := by
  fun_induction splitOn a sep s with
  | case1 s hs => simp_all
  | case2 s before after hs ih =>
    have := length_lt_of_cut? (by simp) hs
    rcases List.mem_cons.1 h with rfl | h
    · omega
    · have := ih h
      omega

end ApiBindings.Text
