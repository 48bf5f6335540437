import Mathlib.Data.List.Nodup
import ApiBindings.Naming.Variant
/-!
# Numbered labels

The occurrences of a label are told apart by a number behind it, which counts the occurrences of
that label alone. So a numbered label may still be what another label is called. Main statement:
the numbered labels differ exactly if no occurrence of one label is called like an occurrence of
another (`nodup_numberedAfter_iff`), which holds if no label ends in a digit.
-/

namespace ApiBindings.Naming

/-! ## Occurrences -/

/-- What the n-th occurrence of a label is called. -/
def ordinal (label : String) (n : Nat) : String := if n ≤ 1 then label else label ++ toString n

/-- Each label with the number of its occurrence, counted after the labels in `seen`. -/
def occurrences (seen : List String) : List String → List (String × Nat)
  | [] => []
  | l :: ls => (l, seen.count l + 1) :: occurrences (l :: seen) ls

/-- Numbered labels are what the occurrences are called. -/
theorem numberedAfter_eq_map_ordinal (seen ls : List String) :
    numberedAfter seen ls = (occurrences seen ls).map fun o => ordinal o.1 o.2 := by
  induction ls generalizing seen with
  | nil => rfl
  | cons l ls ih =>
    rw [numberedAfter, occurrences, List.map_cons, ih]
    congr 1
    unfold ordinal
    by_cases h : seen.count l = 0
    · simp [h]
    · have hmany : ¬ seen.count l + 1 ≤ 1 := by omega
      simp only [h, hmany, ↓reduceIte]

/-- Numbering keeps the number of labels. -/
theorem length_numberedAfter (seen ls : List String) :
    (numberedAfter seen ls).length = ls.length := by
  induction ls generalizing seen with
  | nil => rfl
  | cons l ls ih => rw [numberedAfter, List.length_cons, List.length_cons, ih]

/-- Each case has one label. -/
theorem length_variantLabels (cases : List String) :
    (variantLabels cases).length = cases.length := by
  rw [variantLabels, length_numberedAfter, baseLabels, List.length_map, List.length_map]

/-- The occurrences of a label are numbered on from those in `seen`. -/
theorem mem_occurrences {seen ls : List String} {l : String} {k : Nat} :
    (l, k) ∈ occurrences seen ls ↔ seen.count l < k ∧ k ≤ seen.count l + ls.count l := by
  induction ls generalizing seen with
  | nil =>
    simp only [occurrences, List.not_mem_nil, List.count_nil, false_iff]
    omega
  | cons m ls ih =>
    rw [occurrences, List.mem_cons, ih, Prod.mk.injEq]
    by_cases h : l = m
    · -- the first occurrence is taken by the head, the others count from one more
      subst h
      simp only [true_and, List.count_cons_self]
      omega
    · rw [List.count_cons_of_ne (Ne.symm h), List.count_cons_of_ne (Ne.symm h)]
      simp [h]

/-- No two occurrences are the same. -/
theorem nodup_occurrences (seen ls : List String) : (occurrences seen ls).Nodup := by
  induction ls generalizing seen with
  | nil => simp [occurrences]
  | cons l ls ih =>
    rw [occurrences, List.nodup_cons]
    refine ⟨?_, ih (l :: seen)⟩
    rw [mem_occurrences, List.count_cons_self]
    omega

/-- Lists with the same labels have the same occurrences, in whatever order. -/
theorem perm_occurrences {ls ls' : List String} (h : ls.Perm ls') :
    (occurrences [] ls).Perm (occurrences [] ls') := by
  rw [List.perm_ext_iff_of_nodup (nodup_occurrences [] ls) (nodup_occurrences [] ls')]
  rintro ⟨l, k⟩
  rw [mem_occurrences, mem_occurrences, h.count_eq]

/-- A label is one occurrence further than those before it. -/
theorem getElem?_occurrences (seen before after : List String) (l : String) :
    (occurrences seen (before ++ l :: after))[before.length]? =
      some (l, seen.count l + before.count l + 1) := by
  induction before generalizing seen with
  | nil => rfl
  | cons m before ih =>
    rw [List.cons_append, occurrences, List.length_cons, List.getElem?_cons_succ, ih,
      List.count_cons, List.count_cons]
    congr 2
    omega

/-! ## Numbers behind labels -/

/-- Different numbers are written differently. -/
theorem toString_nat_injective {m n : Nat} (h : toString m = toString n) : m = n := by
  rw [Nat.toString_eq_repr, Nat.toString_eq_repr, ← String.toList_inj, Nat.toList_repr,
    Nat.toList_repr] at h
  rw [← Nat.ofDigitChars_ten_toDigits (n := m), h, Nat.ofDigitChars_ten_toDigits]

/-- Different occurrences of one label are called differently. -/
theorem ordinal_injective {label : String} {m n : Nat} (hm : 1 ≤ m) (hn : 1 ≤ n)
    (h : ordinal label m = ordinal label n) : m = n := by
  have hlonger : ∀ k : Nat, label ≠ label ++ toString k := by
    intro k hk
    have hlength := congrArg String.length hk
    rw [String.length_append, Nat.toString_eq_repr] at hlength
    have := Nat.length_repr_pos (n := k)
    omega
  unfold ordinal at h
  split at h <;> split at h
  · omega
  · exact absurd h (hlonger n)
  · exact absurd h.symm (hlonger m)
  · exact toString_nat_injective ((String.append_right_inj label).mp h)

/-! ## Labels apart -/

/-- No occurrence of one label is called like an occurrence of another. -/
def OrdinalsApart (labels : List String) : Prop :=
  ∀ b ∈ labels, ∀ c ∈ labels, ∀ i < labels.count b, ∀ j < labels.count c,
    ordinal b (i + 1) = ordinal c (j + 1) → b = c

instance (labels : List String) : Decidable (OrdinalsApart labels) :=
  inferInstanceAs (Decidable (∀ b ∈ labels, ∀ c ∈ labels, ∀ i < labels.count b,
    ∀ j < labels.count c, ordinal b (i + 1) = ordinal c (j + 1) → b = c))

/-- **Numbered labels differ exactly if no occurrence of one label is called like an occurrence of
another.** -/
theorem nodup_numberedAfter_iff (labels : List String) :
    (numberedAfter [] labels).Nodup ↔ OrdinalsApart labels := by
  rw [numberedAfter_eq_map_ordinal, List.nodup_map_iff_inj_on (nodup_occurrences [] labels)]
  constructor
  · intro h b hb c hc i hi j hj hcalled
    have hmem : ∀ l k, k < labels.count l → (l, k + 1) ∈ occurrences [] labels := by
      intro l k hk
      rw [mem_occurrences, List.count_nil]
      omega
    have heq := h (b, i + 1) (hmem b i hi) (c, j + 1) (hmem c j hj) hcalled
    exact congrArg Prod.fst heq
  · rintro h ⟨b, m⟩ hb ⟨c, n⟩ hc hcalled
    rw [mem_occurrences, List.count_nil] at hb hc
    have hb' : b ∈ labels := List.count_pos_iff.mp (by omega)
    have hc' : c ∈ labels := List.count_pos_iff.mp (by omega)
    -- occurrences are numbered from one
    have hm : m - 1 + 1 = m := by omega
    have hn : n - 1 + 1 = n := by omega
    have hbc : b = c := by
      apply h b hb' c hc' (m - 1) (by omega) (n - 1) (by omega)
      rw [hm, hn]
      exact hcalled
    subst hbc
    have hmn : m = n := ordinal_injective (by omega) (by omega) hcalled
    rw [hmn]

/-- The label `a` occurs twice, and its second occurrence is called like the label `a2`. -/
example : ¬ OrdinalsApart ["a", "a", "a2"] := by decide

/-! ## Labels without final digits -/

/-- The label does not end in a digit. -/
def endsPlainly (label : String) : Bool := label.toList.reverse.head?.all fun c => !c.isDigit

/-- What an occurrence is called shows the label once the digits at the end are taken away. -/
theorem dropWhile_ordinal {label : String} (h : endsPlainly label = true) (n : Nat) :
    (ordinal label n).toList.reverse.dropWhile Char.isDigit = label.toList.reverse := by
  have hlabel : label.toList.reverse.dropWhile Char.isDigit = label.toList.reverse := by
    unfold endsPlainly at h
    cases hl : label.toList.reverse with
    | nil => rfl
    | cons c cs =>
      simp only [hl, List.head?_cons, Option.all_some, Bool.not_eq_true'] at h
      rw [List.dropWhile_cons_of_neg (by simp [h])]
  unfold ordinal
  split
  · exact hlabel
  · have hdigits : ∀ c ∈ (toString n).toList.reverse, c.isDigit = true := by
      intro c hc
      rw [List.mem_reverse, Nat.toString_eq_repr, Nat.toList_repr] at hc
      exact Nat.isDigit_of_mem_toDigits (by decide) (by decide) hc
    rw [String.toList_append, List.reverse_append, List.dropWhile_append_of_pos hdigits, hlabel]

/-- Labels that do not end in a digit stay apart when they are numbered. -/
theorem ordinalsApart_of_endsPlainly {labels : List String}
    (h : ∀ l ∈ labels, endsPlainly l = true) : OrdinalsApart labels := by
  intro b hb c hc i _ j _ hcalled
  have hreverse : b.toList.reverse = c.toList.reverse := by
    rw [← dropWhile_ordinal (h b hb) (i + 1), hcalled, dropWhile_ordinal (h c hc)]
  exact String.toList_inj.mp (List.reverse_injective hreverse)

end ApiBindings.Naming
