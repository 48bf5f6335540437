import ApiBindings.Text.CharClass
/-!
# Texts cut into pieces

Cutting a text at every character of a class, and what follows from it: the words and the lines of
a text, trimming, indentation and the expansion of tabs. Main statements: there is one piece more
than there are separators (`length_pieces`), no piece holds a separator
(`not_separator_of_mem_pieces`), and joined again the pieces are the text (`intercalate_pieces`).
-/

namespace ApiBindings.Text

/-! ## Pieces -/

/-- The stretches of a text between the characters that satisfy `p`, empty ones included. -/
def pieces (p : Char → Bool) (s : List Char) : List (List Char) :=
  s.foldr (fun c ws => if p c then [] :: ws else (c :: ws.headD []) :: ws.tail) [[]]

@[simp] theorem pieces_nil (p : Char → Bool) : pieces p [] = [[]] := rfl

theorem pieces_cons (p : Char → Bool) (c : Char) (s : List Char) :
    pieces p (c :: s) =
      if p c then [] :: pieces p s else (c :: (pieces p s).headD []) :: (pieces p s).tail := rfl

/-- There is always a first piece. -/
theorem pieces_ne_nil (p : Char → Bool) (s : List Char) : pieces p s ≠ [] := by
  cases s with
  | nil => simp
  | cons c s => rw [pieces_cons]; split <;> simp

/-- Each separator ends one piece and begins another. -/
theorem length_pieces (p : Char → Bool) (s : List Char) :
    (pieces p s).length = s.countP p + 1 := by
  induction s with
  | nil => rfl
  | cons c s ih =>
    rw [pieces_cons]
    by_cases h : p c
    · simp [h, ih]
    · have : (pieces p s).tail.length + 1 = (pieces p s).length := by
        cases hs : pieces p s with
        | nil => exact absurd hs (pieces_ne_nil p s)
        | cons w ws => simp
      simp [h]; omega

/-- No separator is left inside a piece. -/
theorem not_separator_of_mem_pieces (p : Char → Bool) (s : List Char) :
    ∀ w ∈ pieces p s, ∀ c ∈ w, p c = false := by
  induction s with
  | nil => simp
  | cons c s ih =>
    rw [pieces_cons]
    by_cases h : p c
    · simp [h]; exact ih
    · cases hs : pieces p s with
      | nil => exact absurd hs (pieces_ne_nil p s)
      | cons w ws =>
        simp only [hs, List.mem_cons, forall_eq_or_imp] at ih
        simpa [h] using ih

/-- Cutting here is the cutting of lists by a predicate. -/
theorem pieces_eq_splitOnP (p : Char → Bool) (s : List Char) : pieces p s = s.splitOnP p := by
  induction s with
  | nil => rfl
  | cons c s ih =>
    rw [pieces_cons, List.splitOnP_cons_eq_if_modifyHead, ← ih]
    cases hs : pieces p s with
    | nil => exact absurd hs (pieces_ne_nil p s)
    | cons w ws => rfl

/-- A text without a separator is its only piece. -/
theorem pieces_eq_singleton {p : Char → Bool} {s : List Char} (h : ∀ c ∈ s, p c = false) :
    pieces p s = [s] := by
  rw [pieces_eq_splitOnP]
  exact List.splitOnP_eq_singleton h

/-- A separator divides the pieces of a text. -/
theorem pieces_append_cons {p : Char → Bool} {c : Char} (hc : p c = true)
    (before after : List Char) :
    pieces p (before ++ c :: after) = pieces p before ++ pieces p after := by
  rw [pieces_eq_splitOnP, pieces_eq_splitOnP, pieces_eq_splitOnP,
    List.splitOnP_append_cons before after hc]

/-- The pieces, joined by the separator, are the text. -/
theorem intercalate_pieces (c : Char) (s : List Char) :
    List.intercalate [c] (pieces (· == c) s) = s := by
  rw [pieces_eq_splitOnP]
  exact List.intercalate_splitOn c

/-- Each character other than a separator lies in a piece. -/
theorem exists_mem_pieces {p : Char → Bool} {s : List Char} {c : Char} (hc : c ∈ s)
    (hp : p c = false) : ∃ w ∈ pieces p s, c ∈ w := by
  induction s with
  | nil => exact absurd hc (by simp)
  | cons d s ih =>
    rw [pieces_cons]
    by_cases hd : p d
    · rcases List.mem_cons.mp hc with rfl | hc
      · simp [hp] at hd
      · obtain ⟨w, hw, hcw⟩ := ih hc
        exact ⟨w, by simp [hd, hw], hcw⟩
    · cases hs : pieces p s with
      | nil => exact absurd hs (pieces_ne_nil p s)
      | cons v vs =>
        rcases List.mem_cons.mp hc with rfl | hc
        · exact ⟨c :: v, by simp [hd], by simp⟩
        · obtain ⟨w, hw, hcw⟩ := ih hc
          rw [hs] at hw
          rcases List.mem_cons.mp hw with rfl | hw
          · exact ⟨d :: w, by simp [hd], by simp [hcw]⟩
          · exact ⟨w, by simp [hd, hw], hcw⟩

/-! ## Words -/

/-- The maximal stretches without a blank. -/
def words (s : List Char) : List (List Char) := (pieces isBlank s).filter (!·.isEmpty)

/-- The words of a text with one space between each two. -/
def squeeze (s : String) : String :=
  String.ofList (List.intercalate [' '] (words s.toList))

/-! ## Trimming -/

/-- A text without the blanks at its ends. -/
def trimmed (s : List Char) : List Char :=
  ((s.dropWhile isBlank).reverse.dropWhile isBlank).reverse

/-- A text without the blanks at its end. -/
def trimmedEnd (s : List Char) : List Char := (s.reverse.dropWhile isBlank).reverse

/-- A text without the blanks at its ends. -/
def trim (s : String) : String := String.ofList (trimmed s.toList)

/-- A text without the blanks at its end. -/
def trimEnd (s : String) : String := String.ofList (trimmedEnd s.toList)

/-! ## Lines -/

/-- The lines of a text: line feeds separate them, and nothing else does. -/
def lines (s : String) : List String := (pieces (· == '\n') s.toList).map String.ofList

/-- The lines joined by line feeds. -/
def unlines (ls : List String) : String := String.intercalate "\n" ls

/-- One more level of indentation is one more tab, on each line that is not empty. -/
def indent (levels : Int) (code : String) : String :=
  unlines ((lines code).map fun l =>
    if l.isEmpty then l else String.ofList (List.replicate levels.toNat '\t') ++ l)

/-- Each tab becomes four spaces. -/
def expandTabs (s : String) : String :=
  String.ofList (s.toList.flatMap fun c => if c == '\t' then [' ', ' ', ' ', ' '] else [c])

end ApiBindings.Text
