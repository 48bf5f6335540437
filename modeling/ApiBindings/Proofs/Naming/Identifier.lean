import ApiBindings.Proofs.Naming.CamelCase
import ApiBindings.Proofs.Text.CharClass
/-!
# Identifiers

What stays an identifier: letters of identifiers may be put behind one, an underscore behind a
keyword changes nothing, and a name that camel case makes an identifier holds nothing that an
identifier may not hold (`forall_continue_of_camelCase`).
-/

namespace ApiBindings.Naming

open Text

/-! ## Characters of identifiers -/

/-- An identifier is a first letter and what may follow it. -/
theorem isIdentifier_iff {name : String} :
    isIdentifier name = true ↔ ∃ c cs, name.toList = c :: cs ∧ isIdentifierStart c = true ∧
      ∀ d ∈ cs, isIdentifierContinue d = true := by
  unfold isIdentifier
  cases name.toList with
  | nil => simp
  | cons c cs => simp

/-- All characters of an identifier may stand in identifiers. -/
theorem forall_continue_of_isIdentifier {name : String} (h : isIdentifier name = true) :
    ∀ c ∈ name.toList, isIdentifierContinue c = true := by
  obtain ⟨c, cs, hname, hc, hcs⟩ := isIdentifier_iff.1 h
  rw [hname, List.forall_mem_cons]
  exact ⟨isIdentifierContinue_of_isIdentifierStart hc, hcs⟩

/-- A text of letters of identifiers holds none of the characters that may not stand in them. -/
theorem not_mem_of_forall_continue {others : List Char}
    (hothers : (others.all fun c => !isIdentifierContinue c) = true) {s : List Char}
    (hs : ∀ c ∈ s, isIdentifierContinue c = true) : ∀ c ∈ others, c ∉ s := by
  intro c hc hmem
  have hother := List.all_eq_true.1 hothers c hc
  rw [hs c hmem] at hother
  exact absurd hother (by decide)

/-- What stands in identifiers may be put behind a name: the beginning decides. -/
theorem isIdentifier_append_iff {name tail : String} (hne : name.toList ≠ [])
    (htail : ∀ c ∈ tail.toList, isIdentifierContinue c = true) :
    isIdentifier (name ++ tail) = true ↔ isIdentifier name = true := by
  rw [isIdentifier_iff, isIdentifier_iff, String.toList_append]
  cases hname : name.toList with
  | nil => exact absurd hname hne
  | cons c cs =>
    constructor
    · rintro ⟨d, ds, heq, hd, hds⟩
      rw [List.cons_append, List.cons.injEq] at heq
      obtain ⟨rfl, rfl⟩ := heq
      exact ⟨c, cs, rfl, hd, fun e he => hds e (List.mem_append_left _ he)⟩
    · rintro ⟨d, ds, heq, hd, hds⟩
      rw [List.cons.injEq] at heq
      obtain ⟨rfl, rfl⟩ := heq
      refine ⟨c, cs ++ tail.toList, rfl, hd, fun e he => ?_⟩
      rcases List.mem_append.1 he with he | he
      · exact hds e he
      · exact htail e he

/-- The underscore may stand in identifiers. -/
theorem isIdentifierContinue_of_mem_underscore :
    ∀ c ∈ "_".toList, isIdentifierContinue c = true := by
  intro c hc
  obtain rfl : c = '_' := by simpa using hc
  decide +kernel

/-- The characters of a written number are digits: they may stand in identifiers and begin none. -/
theorem isDigit_of_mem_toString {n : Nat} {c : Char} (h : c ∈ (toString n).toList) :
    c.isDigit = true ∧ isIdentifierContinue c = true ∧ isIdentifierStart c = false := by
  rw [Nat.toString_eq_repr, Nat.toList_repr] at h
  have hdigit := Nat.isDigit_of_mem_toDigits (by decide) (by decide) h
  have hascii : isAsciiDigit c = true := by
    simpa [isAsciiDigit, Char.isDigit, Char.le_def] using hdigit
  have hclasses : isIdentifierContinue c = true ∧
      (isAsciiDigit c = true → isIdentifierStart c = false) :=
    of_isAsciiLower_or_isAsciiDigit
      (P := fun c => isIdentifierContinue c = true ∧
        (isAsciiDigit c = true → isIdentifierStart c = false))
      (by decide +kernel) (by simp [hascii])
  exact ⟨hdigit, hclasses.1, hclasses.2 hascii⟩

/-! ## Keywords -/

/-- Every keyword is an identifier. -/
theorem isIdentifier_of_isKeyword {name : String} (h : isKeyword name = true) :
    isIdentifier name = true := by
  have hall : ∀ k ∈ keywords, isIdentifier k = true := by decide +kernel
  exact hall name (by simpa [isKeyword] using h)

/-- Escaping makes no identifier and takes none away. -/
theorem isIdentifier_escapeKeyword (name : String) :
    isIdentifier (escapeKeyword name) = isIdentifier name := by
  unfold escapeKeyword
  split
  · rename_i hkeyword
    have hname := isIdentifier_of_isKeyword hkeyword
    obtain ⟨c, cs, hlist, -⟩ := isIdentifier_iff.1 hname
    rw [hname, isIdentifier_append_iff (by simp [hlist]) isIdentifierContinue_of_mem_underscore]
    exact hname
  · rfl

/-! ## Camel case -/

/-- The form of a character in a text in lower case stands in the text. -/
theorem exists_lowerBetween_subset (before : List Char) {s : List Char} {c : Char} (hc : c ∈ s) :
    ∃ b a, ∀ d ∈ lowerBetween b a c, d ∈ lowerAfter before s := by
  induction s generalizing before with
  | nil => exact absurd hc (by simp)
  | cons e s ih =>
    rcases List.mem_cons.1 hc with rfl | hc
    · refine ⟨before, s, fun d hd => ?_⟩
      rw [lowerAfter, List.mem_append]
      exact Or.inl hd
    · obtain ⟨b, a, hsub⟩ := ih (e :: before) hc
      refine ⟨b, a, fun d hd => ?_⟩
      rw [lowerAfter, List.mem_append]
      exact Or.inr (hsub d hd)

/-- A character whose form in a text in lower case may stand in identifiers may stand there
itself. -/
theorem isIdentifierContinue_of_lowerBetween {before after : List Char} {c : Char}
    (h : ∀ d ∈ lowerBetween before after c, isIdentifierContinue d = true) :
    isIdentifierContinue c = true := by
  unfold lowerBetween at h
  by_cases hsigma : c = 'Σ'
  · rw [hsigma]
    decide +kernel
  · rw [if_neg (by simpa using hsigma)] at h
    exact isIdentifierContinue_of_lowerForm h

/-- A text holds nothing but letters of identifiers if its lower-case form does. -/
theorem forall_continue_of_lowerAfter {before s : List Char}
    (h : ∀ d ∈ lowerAfter before s, isIdentifierContinue d = true) :
    ∀ c ∈ s, isIdentifierContinue c = true := by
  intro c hc
  obtain ⟨b, a, hsub⟩ := exists_lowerBetween_subset before hc
  exact isIdentifierContinue_of_lowerBetween fun d hd => h d (hsub d hd)

/-- A text holds nothing but letters of identifiers if its capitalized form does. -/
theorem forall_continue_of_capitalize {s : List Char}
    (h : ∀ d ∈ capitalize s, isIdentifierContinue d = true) :
    ∀ c ∈ s, isIdentifierContinue c = true := by
  cases s with
  | nil => simp
  | cons c s =>
    rw [capitalize, List.forall_mem_append] at h
    rw [List.forall_mem_cons]
    exact ⟨isIdentifierContinue_of_titleForm h.1, forall_continue_of_lowerAfter h.2⟩

/-- **A name that camel case makes an identifier holds nothing but letters of identifiers.** -/
theorem forall_continue_of_camelCase {name : String} (h : isIdentifier (camelCase name) = true) :
    ∀ c ∈ name.toList, isIdentifierContinue c = true := by
  have hjoin := forall_continue_of_isIdentifier h
  rw [camelCase, String.toList_ofList] at hjoin
  have hsegments : ∀ w ∈ segments name.toList, ∀ c ∈ w, isIdentifierContinue c = true := by
    cases hws : segments name.toList with
    | nil => simp
    | cons first rest =>
      rw [hws, camelJoin, List.forall_mem_append] at hjoin
      rw [List.forall_mem_cons]
      refine ⟨forall_continue_of_lowerAfter hjoin.1, fun w hw => ?_⟩
      apply forall_continue_of_capitalize
      intro d hd
      exact hjoin.2 d (List.mem_flatMap.2 ⟨w, hw, hd⟩)
  intro c hc
  by_cases hunderscore : c = '_'
  · exact isIdentifierContinue_of_mem_underscore c (by simp [hunderscore])
  · obtain ⟨w, hw, hcw⟩ := exists_mem_segments hc hunderscore
    exact hsegments w hw c hcw

end ApiBindings.Naming
