import ApiBindings.Text.Casing
/-!
# What the case mappings keep apart

A character that both mappings leave alone stays in a text whatever its case, a character that no
mapping makes comes from nowhere else, and the small ASCII letters and the ASCII digits are already
in lower case.
-/

namespace ApiBindings.Text

/-! ## Characters without case -/

/-- Both mappings leave the character alone. -/
def isCaseless (c : Char) : Bool := lowerForm c == [c] && titleForm c == [c]

/-- A character without case is its own lower-case form anywhere in a text. -/
theorem lowerBetween_of_isCaseless {c : Char} (h : isCaseless c = true) (before after : List Char) :
    lowerBetween before after c = [c] := by
  have hsigma : c ≠ 'Σ' := by
    rintro rfl
    exact absurd h (by decide +kernel)
  have hform : lowerForm c = [c] := by
    simp only [isCaseless, Bool.and_eq_true, beq_iff_eq] at h
    exact h.1
  simp [lowerBetween, hsigma, hform]

/-- A character without case stays in the lower-case form of a text. -/
theorem mem_lowerAfter_of_isCaseless {c : Char} (h : isCaseless c = true) {before s : List Char}
    (hc : c ∈ s) : c ∈ lowerAfter before s := by
  induction s generalizing before with
  | nil => exact absurd hc (by simp)
  | cons d s ih =>
    rw [lowerAfter, List.mem_append]
    rcases List.mem_cons.mp hc with rfl | hc
    · left
      simp [lowerBetween_of_isCaseless h]
    · right
      exact ih hc

/-- A character without case stays in a capitalized text. -/
theorem mem_capitalize_of_isCaseless {c : Char} (h : isCaseless c = true) {s : List Char}
    (hc : c ∈ s) : c ∈ capitalize s := by
  cases s with
  | nil => exact absurd hc (by simp)
  | cons d s =>
    rw [capitalize, List.mem_append]
    rcases List.mem_cons.mp hc with rfl | hc
    · left
      have hform : titleForm c = [c] := by
        simp only [isCaseless, Bool.and_eq_true, beq_iff_eq] at h
        exact h.2
      simp [hform]
    · right
      exact mem_lowerAfter_of_isCaseless h hc

/-! ## Where a character comes from -/

/-- No letter of the run has the code point `n` as its image. -/
def CaseRun.avoids (n : Nat) (r : CaseRun) : Bool := n < r.image || r.image + (r.last - r.first) < n

/-- The mapping given by the spellings and the runs makes `t` from nothing else. -/
def avoids (spellings : List (Nat × List Nat)) (runs : List CaseRun) (t : Char) : Bool :=
  t.toNat != 0 && spellings.all (!·.2.contains t.toNat) && runs.all (CaseRun.avoids t.toNat)

/-- A character other than the one of code point zero has its code point from nowhere else. -/
theorem toNat_of_ofNat_eq {n : Nat} {t : Char} (ht : t.toNat ≠ 0) (h : Char.ofNat n = t) :
    n = t.toNat := by
  subst h
  by_cases hn : n.isValidChar
  · rw [Char.ofNat, dif_pos hn]
    rfl
  · rw [Char.ofNat, dif_neg hn] at ht
    exact absurd rfl ht

/-- A mapping that avoids `t` does not put it in the form of another character. -/
theorem not_mem_caseForm {spellings : List (Nat × List Nat)} {runs : List CaseRun} {t c : Char}
    (h : avoids spellings runs t = true) (hc : c ≠ t) : t ∉ caseForm spellings runs c := by
  simp only [avoids, Bool.and_eq_true, bne_iff_ne, ne_eq, List.all_eq_true] at h
  obtain ⟨⟨hzero, hspellings⟩, hruns⟩ := h
  intro hmem
  unfold caseForm at hmem
  split at hmem
  · -- a form of several letters
    rename_i form hform
    obtain ⟨n, hn, hnt⟩ := List.mem_map.mp hmem
    obtain ⟨l₁, l₂, hl, -⟩ := List.lookup_eq_some_iff.mp hform
    have := hspellings (c.toNat, form) (by simp [hl])
    rw [toNat_of_ofNat_eq hzero hnt] at hn
    simp [hn] at this
  · split at hmem
    · -- a letter of a run: its image lies between the images of the ends
      rename_i r hr
      have hcovers := List.find?_some hr
      have havoids := hruns r (List.mem_of_find?_eq_some hr)
      have himage := toNat_of_ofNat_eq hzero (List.mem_singleton.mp hmem).symm
      simp only [CaseRun.covers, Bool.and_eq_true, decide_eq_true_eq] at hcovers
      simp only [CaseRun.avoids, Bool.or_eq_true, decide_eq_true_eq] at havoids
      omega
    · exact hc (List.mem_singleton.mp hmem).symm

/-- Neither mapping, nor the rule for the sigma, makes the character from another one. -/
def isUnmade (t : Char) : Bool :=
  avoids lowerSpellings lowerRuns t && avoids titleSpellings titleRuns t && t != 'ς' && t != 'σ'

/-- A text in lower case has a character that nothing else turns into only where it had it. -/
theorem not_mem_lowerAfter {t : Char} (ht : isUnmade t = true) {before s : List Char} (h : t ∉ s) :
    t ∉ lowerAfter before s := by
  simp only [isUnmade, Bool.and_eq_true, bne_iff_ne, ne_eq] at ht
  obtain ⟨⟨⟨hlower, -⟩, hfinal⟩, hsigma⟩ := ht
  induction s generalizing before with
  | nil => simp [lowerAfter]
  | cons c s ih =>
    rw [List.mem_cons, not_or] at h
    rw [lowerAfter, List.mem_append, not_or]
    refine ⟨?_, ih h.2⟩
    unfold lowerBetween
    split
    · split
      · simpa using hfinal
      · simpa using hsigma
    · exact not_mem_caseForm hlower (Ne.symm h.1)

/-- A capitalized text has a character that nothing else turns into only where it had it. -/
theorem not_mem_capitalize {t : Char} (ht : isUnmade t = true) {s : List Char} (h : t ∉ s) :
    t ∉ capitalize s := by
  cases s with
  | nil => simp [capitalize]
  | cons c s =>
    rw [List.mem_cons, not_or] at h
    rw [capitalize, List.mem_append, not_or]
    refine ⟨not_mem_caseForm ?_ (Ne.symm h.1), not_mem_lowerAfter ht h.2⟩
    simp only [isUnmade, Bool.and_eq_true] at ht
    exact ht.1.1.2

/-- Nothing turns into an underscore. -/
theorem isUnmade_underscore : isUnmade '_' = true := by decide +kernel

/-! ## ASCII -/

/-- A small ASCII letter. -/
def isAsciiLower (c : Char) : Bool := 'a' ≤ c && c ≤ 'z'

/-- A capital ASCII letter. -/
def isAsciiUpper (c : Char) : Bool := 'A' ≤ c && c ≤ 'Z'

/-- What holds of the first 128 characters holds of every small letter and digit. -/
theorem of_isAsciiLower_or_isAsciiDigit {P : Char → Prop}
    (h : ∀ n < 128, isAsciiLower (Char.ofNat n) || isAsciiDigit (Char.ofNat n) → P (Char.ofNat n))
    {c : Char} (hc : isAsciiLower c || isAsciiDigit c) : P c := by
  have hbound : c.toNat < 128 := by
    simp only [isAsciiLower, isAsciiDigit, Bool.or_eq_true, Bool.and_eq_true, decide_eq_true_eq,
      Char.le_def, UInt32.le_iff_toNat_le] at hc
    have hz : 'z'.val.toNat = 122 := rfl
    have hnine : '9'.val.toNat = 57 := rfl
    have hval : c.toNat = c.val.toNat := rfl
    omega
  have := h c.toNat hbound
  rw [Char.ofNat_toNat] at this
  exact this hc

/-- Small ASCII letters and ASCII digits are in lower case. -/
theorem lowerForm_of_isAsciiLower_or_isAsciiDigit {c : Char}
    (hc : isAsciiLower c || isAsciiDigit c) : lowerForm c = [c] :=
  of_isAsciiLower_or_isAsciiDigit (P := fun c => lowerForm c = [c]) (by decide +kernel) hc

/-- A text of small ASCII letters and digits is its own lower-case form. -/
theorem lowerAfter_of_ascii {before s : List Char}
    (h : ∀ c ∈ s, isAsciiLower c || isAsciiDigit c) : lowerAfter before s = s := by
  induction s generalizing before with
  | nil => rfl
  | cons c s ih =>
    rw [List.forall_mem_cons] at h
    have hsigma : c ≠ 'Σ' := by
      rintro rfl
      exact absurd h.1 (by decide)
    rw [lowerAfter, lowerBetween, if_neg (by simpa using hsigma),
      lowerForm_of_isAsciiLower_or_isAsciiDigit h.1, ih h.2]
    rfl

end ApiBindings.Text
