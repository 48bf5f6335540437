import ApiBindings.Proofs.Naming.Identifier
import ApiBindings.Proofs.Naming.Variant
/-!
# Labels as identifiers

A label is a case without what all cases share at their ends, with a small first letter, and may get
a number. The shared beginning is cut off where a word begins in every case, and a word may begin
with a digit. Main statement: the label of an identifier is an identifier exactly if its stem does
not begin with a digit (`isIdentifier_label_iff`), whatever number follows (`isIdentifier_ordinal`).
-/

namespace ApiBindings.Naming

open Text

/-! ## Where a label begins -/

/-- The cuts leave a stem of the case, and it begins with a digit. -/
def Cut.opensAtDigit (cut : Cut) (case : List Char) : Bool :=
  cut.front + cut.back < case.length && case[cut.front]?.any isDigit

/-! ## Labels that are identifiers -/

/-- The beginning of an identifier in lower case is the beginning of one. -/
theorem lower_of_isIdentifierStart {c : Char} (h : isIdentifierStart c = true) :
    ∃ d ds, lower [c] = d :: ds ∧ isIdentifierStart d = true ∧
      ∀ e ∈ ds, isIdentifierContinue e = true := by
  by_cases hsigma : c = 'Σ'
  · -- a sigma alone does not end a word
    refine ⟨'σ', [], ?_, by decide +kernel, by simp⟩
    rw [hsigma]
    decide +kernel
  · have hlower : lower [c] = lowerForm c := by
      simp [lower, lowerAfter, lowerBetween, hsigma]
    rw [hlower]
    exact lowerForm_of_isIdentifierStart h

/-- A digit in lower case is itself. -/
theorem lower_of_isDigit {c : Char} (h : isDigit c = true) : lower [c] = [c] := by
  have hsigma : c ≠ 'Σ' := by
    rintro rfl
    exact absurd h (by decide +kernel)
  have hlower : lower [c] = lowerForm c := by
    simp [lower, lowerAfter, lowerBetween, hsigma]
  rw [hlower, lowerForm_of_isDigit h]

/-- A text that begins like an identifier or with a digit is an identifier, once its first letter is
small, exactly if it does not begin with a digit. -/
theorem isIdentifier_uncapitalize_iff {c : Char} {cs : List Char}
    (hc : isIdentifierStart c = true ∨ isDigit c = true)
    (hcs : ∀ d ∈ cs, isIdentifierContinue d = true) :
    isIdentifier (String.ofList (uncapitalize (c :: cs))) = true ↔ isDigit c = false := by
  rw [isIdentifier_iff, String.toList_ofList, uncapitalize]
  cases hdigit : isDigit c with
  | true =>
    rw [lower_of_isDigit hdigit]
    simp [isIdentifierStart_of_isDigit hdigit]
  | false =>
    obtain ⟨d, ds, hlower, hd, hds⟩ :=
      lower_of_isIdentifierStart (hc.resolve_right (by simp [hdigit]))
    rw [hlower]
    simp only [iff_true]
    refine ⟨d, ds ++ cs, rfl, hd, ?_⟩
    rw [List.forall_mem_append]
    exact ⟨hds, hcs⟩

/-- What stands in an identifier where a word begins is the beginning of an identifier or a
digit. -/
theorem isIdentifierStart_or_isDigit {name : String} {i : Nat} {c : Char}
    (hname : isIdentifier name = true) (hboundary : isBoundary name.toList i = true)
    (hc : name.toList[i]? = some c) : isIdentifierStart c = true ∨ isDigit c = true := by
  have hcontinue := forall_continue_of_isIdentifier hname c (List.mem_of_getElem? hc)
  simp only [isBoundary, hc, Bool.or_eq_true, beq_iff_eq] at hboundary
  rcases hboundary with rfl | hupper | hdigit
  · obtain ⟨d, ds, hlist, hd, -⟩ := isIdentifier_iff.1 hname
    rw [hlist, List.getElem?_cons_zero, Option.some.injEq] at hc
    exact Or.inl (hc ▸ hd)
  · exact Or.inl (isIdentifierStart_of_isUpper hupper hcontinue)
  · exact Or.inr hdigit

/-- The label of a case is an identifier exactly if its stem does not begin with a digit. -/
theorem isIdentifier_label_iff {cut : Cut} {name : String} (hname : isIdentifier name = true)
    (hboundary : isBoundary name.toList cut.front = true) :
    isIdentifier (cut.label name.toList) = true ↔ cut.opensAtDigit name.toList = false := by
  rw [Cut.label, isIdentifier_escapeKeyword]
  by_cases hwhole : name.toList.length ≤ cut.front + cut.back
  · -- the case stays whole
    have hno : cut.opensAtDigit name.toList = false := by
      simp only [Cut.opensAtDigit, Bool.and_eq_false_iff, decide_eq_false_iff_not]
      omega
    rw [if_pos hwhole, String.ofList_toList]
    simp [hname, hno]
  · obtain ⟨c, cs, hstem, hc, -, hcs⟩ := Cut.exists_stem_eq (Nat.lt_of_not_le hwhole)
    have hopens : cut.opensAtDigit name.toList = isDigit c := by
      simp only [Cut.opensAtDigit, hc, Option.any_some]
      simp only [Nat.lt_of_not_le hwhole, decide_true, Bool.true_and]
    rw [if_neg hwhole, hstem, hopens]
    apply isIdentifier_uncapitalize_iff (isIdentifierStart_or_isDigit hname hboundary hc)
    intro d hd
    exact forall_continue_of_isIdentifier hname d (hcs d hd)

/-- An escaped name holds nothing but letters of identifiers if the name does. -/
theorem forall_continue_escapeKeyword {name : String}
    (h : ∀ c ∈ name.toList, isIdentifierContinue c = true) :
    ∀ c ∈ (escapeKeyword name).toList, isIdentifierContinue c = true := by
  rcases escapeKeyword_eq_or name with heq | heq
  · rwa [heq]
  · rw [heq, String.toList_append, List.forall_mem_append]
    exact ⟨h, isIdentifierContinue_of_mem_underscore⟩

/-- The label of a case holds nothing but letters of identifiers. -/
theorem forall_continue_label {cut : Cut} {name : String} (hname : isIdentifier name = true)
    (hboundary : isBoundary name.toList cut.front = true) :
    ∀ c ∈ (cut.label name.toList).toList, isIdentifierContinue c = true := by
  have hall := forall_continue_of_isIdentifier hname
  apply forall_continue_escapeKeyword
  rw [String.toList_ofList]
  by_cases hwhole : name.toList.length ≤ cut.front + cut.back
  · rwa [if_pos hwhole]
  · obtain ⟨c, cs, hstem, hc, hmem, hcs⟩ := Cut.exists_stem_eq (Nat.lt_of_not_le hwhole)
    rw [if_neg hwhole, hstem, uncapitalize, List.forall_mem_append]
    refine ⟨?_, fun d hd => hall d (hcs d hd)⟩
    rcases isIdentifierStart_or_isDigit hname hboundary hc with hstart | hdigit
    · obtain ⟨d, ds, hlower, hd, hds⟩ := lower_of_isIdentifierStart hstart
      rw [hlower, List.forall_mem_cons]
      exact ⟨isIdentifierContinue_of_isIdentifierStart hd, hds⟩
    · rw [lower_of_isDigit hdigit, List.forall_mem_singleton]
      exact hall c hmem

/-! ## Numbers behind labels -/

/-- A number alone is no identifier. -/
theorem isIdentifier_toString (n : Nat) : isIdentifier (toString n) = false := by
  rw [← Bool.not_eq_true, isIdentifier_iff]
  rintro ⟨c, cs, hlist, hc, -⟩
  rw [(isDigit_of_mem_toString (hlist ▸ List.mem_cons_self)).2.2] at hc
  exact absurd hc (by decide)

/-- A number behind a name makes no identifier and takes none away. -/
theorem isIdentifier_ordinal (label : String) (n : Nat) :
    isIdentifier (ordinal label n) = isIdentifier label := by
  unfold ordinal
  split
  · rfl
  · by_cases hlabel : label.toList = []
    · obtain rfl : label = "" := String.toList_inj.1 hlabel
      rw [String.empty_append, isIdentifier_toString]
      rfl
    · rw [Bool.eq_iff_iff]
      exact isIdentifier_append_iff hlabel fun c hc => (isDigit_of_mem_toString hc).2.1

/-- A number behind a name is made of letters of identifiers. -/
theorem forall_continue_ordinal {label : String}
    (h : ∀ c ∈ label.toList, isIdentifierContinue c = true) (n : Nat) :
    ∀ c ∈ (ordinal label n).toList, isIdentifierContinue c = true := by
  unfold ordinal
  split
  · exact h
  · rw [String.toList_append, List.forall_mem_append]
    exact ⟨h, fun c hc => (isDigit_of_mem_toString hc).2.1⟩

/-- A name with a number behind it ends in a digit. -/
theorem endsPlainly_append_toString (label : String) (n : Nat) :
    endsPlainly (label ++ toString n) = false := by
  unfold endsPlainly
  rw [String.toList_append, List.reverse_append]
  cases h : (toString n).toList.reverse with
  | nil =>
    have hempty : (toString n).length = 0 := by
      rw [← String.length_toList, List.reverse_eq_nil_iff.1 h]
      rfl
    rw [Nat.toString_eq_repr] at hempty
    have := Nat.length_repr_pos (n := n)
    omega
  | cons c cs =>
    have hmem : c ∈ (toString n).toList := List.mem_reverse.1 (h ▸ List.mem_cons_self)
    simp [(isDigit_of_mem_toString hmem).1]

/-- An occurrence of a label that ends plainly is called so only if it is that label. -/
theorem eq_of_ordinal_eq {label name : String} {n : Nat} (hname : endsPlainly name = true)
    (h : ordinal label n = name) : label = name := by
  unfold ordinal at h
  split at h
  · exact h
  · rw [← h, endsPlainly_append_toString] at hname
    exact absurd hname (by decide)

/-- A number behind a name makes no keyword. -/
theorem isKeyword_ordinal {label : String} (h : isKeyword label = false) (n : Nat) :
    isKeyword (ordinal label n) = false := by
  have hplain : ∀ k ∈ keywords, endsPlainly k = true := by decide
  rw [← Bool.not_eq_true]
  intro hkeyword
  have hmem : ordinal label n ∈ keywords := by simpa [isKeyword] using hkeyword
  rw [← eq_of_ordinal_eq (hplain _ hmem) rfl, h] at hkeyword
  exact absurd hkeyword (by decide)

/-- The first occurrence of a label has no number. -/
theorem mem_variantLabels_of_mem_baseLabels {cases : List String} {label : String}
    (h : label ∈ baseLabels cases) : label ∈ variantLabels cases := by
  have hfirst : (label, 1) ∈ occurrences [] (baseLabels cases) := by
    rw [mem_occurrences, List.count_nil]
    have := List.count_pos_iff.2 h
    omega
  rw [variantLabels, numberedAfter_eq_map_ordinal]
  exact List.mem_map.2 ⟨(label, 1), hfirst, rfl⟩

end ApiBindings.Naming
