import ApiBindings.Bindings.Class
import Mathlib.Data.List.Infix
/-!
# Literals in triple quotes

The text of a literal in triple quotes, read from its opening quotes on: a backslash stands for
itself or for a quote only together with what follows it, and the first three quotes in a row that
are not escaped end the literal. What is escaped is read back wherever no quote follows it
(`readsAs_escaped`), and behind the guard at its end it is read back whatever follows
(`readBody_guardEnd`). Main statement: documentation between triple quotes is read back as the text
that is documented, with the guard behind it if it ends in a quote (`readLiteral_docstring`).
-/

namespace ApiBindings.Bindings

/-! ## The reader -/

/-- What is read of a literal, with more text read in front of it. -/
def readBefore (value : List Char) (behind : Option (List Char × List Char)) :
    Option (List Char × List Char) :=
  behind.map fun (value', rest) => (value ++ value', rest)

/-- The value of a literal from behind its opening quotes on, and what follows its closing quotes.
A backslash that stands before anything but a backslash or a quote is not read. -/
def readBody : List Char → Option (List Char × List Char)
  | '"' :: '"' :: '"' :: rest => some ([], rest)
  | '\\' :: '\\' :: rest => readBefore ['\\'] (readBody rest)
  | '\\' :: '"' :: rest => readBefore ['"'] (readBody rest)
  | '\\' :: _ => none
  | c :: rest => readBefore [c] (readBody rest)
  | [] => none

/-- The value of a literal, and what follows it. -/
def readLiteral : List Char → Option (List Char × List Char)
  | '"' :: '"' :: '"' :: rest => readBody rest
  | _ => none

@[simp] theorem readBefore_nil (behind : Option (List Char × List Char)) :
    readBefore [] behind = behind := by
  cases behind <;> rfl

@[simp] theorem readBefore_readBefore (v w : List Char) (behind : Option (List Char × List Char)) :
    readBefore v (readBefore w behind) = readBefore (v ++ w) behind := by
  cases behind with
  | none => rfl
  | some read => simp [readBefore]

/-- A character that is neither a quote nor a backslash is read as it is. -/
theorem readBody_cons {c : Char} (hquote : c ≠ '"') (hbackslash : c ≠ '\\') (s : List Char) :
    readBody (c :: s) = readBefore [c] (readBody s) := by
  rw [readBody] <;> simp_all

/-- So is a quote that does not begin three of them. -/
theorem readBody_quote {s : List Char} (h : ¬['"', '"'] <+: s) :
    readBody ('"' :: s) = readBefore ['"'] (readBody s) := by
  rw [readBody] <;> simp_all
  rintro rest rfl
  exact h ⟨rest, rfl⟩

/-! ## Escaped texts -/

/-- A text with its backslashes and triples of quotes escaped. -/
def escaped (s : List Char) : List Char := escapeTriples (escapeBackslashes s)

theorem escaped_triple (s : List Char) :
    escaped ('"' :: '"' :: '"' :: s) = ['\\', '"', '\\', '"', '\\', '"'] ++ escaped s := rfl

theorem escaped_backslash (s : List Char) : escaped ('\\' :: s) = '\\' :: '\\' :: escaped s := by
  have hdoubled : escapeBackslashes ('\\' :: s) = '\\' :: '\\' :: escapeBackslashes s := rfl
  rw [escaped, hdoubled, escapeTriples, escapeTriples, escaped] <;> simp

theorem escapeBackslashes_cons {c : Char} (hc : c ≠ '\\') (s : List Char) :
    escapeBackslashes (c :: s) = c :: escapeBackslashes s := by
  simp [escapeBackslashes, hc]

/-- Doubling backslashes makes no quotes. -/
theorem eq_of_escapeBackslashes {s t : List Char} (h : escapeBackslashes s = '"' :: t) :
    ∃ s', s = '"' :: s' ∧ t = escapeBackslashes s' := by
  cases s with
  | nil => cases h
  | cons c s =>
    by_cases hc : c = '\\'
    · subst hc
      cases h
    · rw [escapeBackslashes_cons hc] at h
      cases h
      exact ⟨s, rfl, rfl⟩

/-- A character that is no backslash and begins no triple of quotes stays. -/
theorem escaped_cons {c : Char} {s : List Char} (hbackslash : c ≠ '\\')
    (htriple : ¬['"', '"', '"'] <+: c :: s) : escaped (c :: s) = c :: escaped s := by
  rw [escaped, escapeBackslashes_cons hbackslash, escapeTriples]
  · rfl
  · rintro rest rfl hrest
    obtain ⟨s₁, rfl, h₁⟩ := eq_of_escapeBackslashes hrest
    obtain ⟨s₂, rfl, -⟩ := eq_of_escapeBackslashes h₁.symm
    exact htriple ⟨s₂, rfl⟩

/-- A text is escaped from its front on: a triple of quotes, a backslash, or another character. -/
theorem escaped_induction {motive : List Char → Prop} (nil : motive [])
    (triple : ∀ s, motive s → motive ('"' :: '"' :: '"' :: s))
    (backslash : ∀ s, motive s → motive ('\\' :: s))
    (other : ∀ c s, c ≠ '\\' → ¬['"', '"', '"'] <+: c :: s → motive s → motive (c :: s))
    (s : List Char) : motive s := by
  induction s using escapeTriples.induct with
  | case1 s ih => exact triple s ih
  | case2 c s hne ih =>
    by_cases hc : c = '\\'
    · subst hc
      exact backslash s ih
    · refine other c s hc ?_ ih
      rintro ⟨rest, hrest⟩
      cases hrest
      exact hne rest rfl rfl
  | case3 => exact nil

/-- An escaped text begins with a quote only if the text does. -/
theorem eq_of_escaped {s t : List Char} (h : escaped s = '"' :: t) :
    ∃ s', s = '"' :: s' ∧ t = escaped s' := by
  induction s using escaped_induction with
  | nil => cases h
  | triple s => cases h
  | backslash s =>
    rw [escaped_backslash] at h
    cases h
  | other c s hbackslash htriple =>
    rw [escaped_cons hbackslash htriple] at h
    cases h
    exact ⟨s, rfl, rfl⟩

/-- An escaped text ends as the text does. -/
theorem getLast?_escaped (s : List Char) : (escaped s).getLast? = s.getLast? := by
  induction s using escaped_induction with
  | nil => rfl
  | triple s ih =>
    rw [escaped_triple, List.getLast?_append, ih]
    cases s <;> simp [List.getLast?_cons]
  | backslash s ih => rw [escaped_backslash, List.getLast?_cons_cons, List.getLast?_cons,
      List.getLast?_cons, ih]
  | other c s hbackslash htriple ih =>
    rw [escaped_cons hbackslash htriple, List.getLast?_cons, List.getLast?_cons, ih]

/-- A last character that is no quote is escaped by itself. -/
theorem escaped_concat (s : List Char) {c : Char} (hc : c ≠ '"') :
    escaped (s ++ [c]) = escaped s ++ escaped [c] := by
  induction s using escaped_induction with
  | nil => rfl
  | triple s ih => simp only [List.cons_append, escaped_triple, ih, List.append_assoc]
  | backslash s ih => simp only [List.cons_append, escaped_backslash, ih]
  | other d s hbackslash htriple ih =>
    -- the last character completes no triple of quotes
    have hlonger : ¬['"', '"', '"'] <+: d :: (s ++ [c]) := by
      intro h
      rw [← List.cons_append, List.prefix_concat_iff] at h
      rcases h with h | h
      · have hlast := congrArg List.getLast? h
        rw [List.getLast?_concat] at hlast
        exact hc (Option.some.inj hlast).symm
      · exact htriple h
    rw [List.cons_append, escaped_cons hbackslash hlonger, escaped_cons hbackslash htriple, ih,
      List.cons_append]

/-! ## Reading what is escaped -/

/-- A piece of a literal is read as a value, wherever no quote follows it. -/
def ReadsAs (s value : List Char) : Prop :=
  ∀ rest : List Char, rest.head? ≠ some '"' →
    readBody (s ++ rest) = readBefore value (readBody rest)

/-- An escaped text and what follows it begin with a quote only if the text does. -/
theorem eq_of_escaped_append {s rest t : List Char} (hrest : rest.head? ≠ some '"')
    (h : escaped s ++ rest = '"' :: t) : ∃ s', s = '"' :: s' ∧ t = escaped s' ++ rest := by
  cases hs : escaped s with
  | nil =>
    rw [hs, List.nil_append] at h
    exact absurd (congrArg List.head? h) hrest
  | cons c cs =>
    rw [hs, List.cons_append] at h
    cases h
    obtain ⟨s', rfl, rfl⟩ := eq_of_escaped hs
    exact ⟨s', rfl, rfl⟩

/-- **What is escaped is read back**, wherever no quote follows it. -/
theorem readsAs_escaped (s : List Char) : ReadsAs (escaped s) s := by
  intro rest hrest
  induction s using escaped_induction with
  | nil => simp [escaped, escapeTriples, escapeBackslashes]
  | triple s ih =>
    rw [escaped_triple]
    simp [readBody, ih]
  | backslash s ih =>
    rw [escaped_backslash]
    simp [readBody, ih]
  | other c s hbackslash htriple ih =>
    rw [escaped_cons hbackslash htriple, List.cons_append]
    by_cases hc : c = '"'
    · subst hc
      -- neither the text nor what follows it makes three quotes of this one
      have hlone : ¬['"', '"'] <+: escaped s ++ rest := by
        rintro ⟨rest', h⟩
        obtain ⟨s₁, rfl, h₁⟩ := eq_of_escaped_append hrest h.symm
        obtain ⟨s₂, rfl, -⟩ := eq_of_escaped_append hrest h₁.symm
        exact htriple ⟨s₂, rfl⟩
      rw [readBody_quote hlone, ih]
      simp
    · rw [readBody_cons hc hbackslash, ih]
      simp

/-- So is a text that does not end in a quote, whatever follows it. -/
theorem readBody_escaped {s : List Char} (h : s.getLast? ≠ some '"') (rest : List Char) :
    readBody (escaped s ++ rest) = readBefore s (readBody rest) := by
  rcases List.eq_nil_or_concat s with rfl | ⟨s, c, rfl⟩
  · simp [escaped, escapeTriples, escapeBackslashes]
  · rw [List.concat_eq_append] at h ⊢
    have hc : c ≠ '"' := by
      rintro rfl
      simp at h
    -- what the last character is escaped to begins with no quote, and is read back by itself
    have hlast : (escaped [c] ++ rest).head? ≠ some '"' ∧
        readBody (escaped [c] ++ rest) = readBefore [c] (readBody rest) := by
      by_cases hbackslash : c = '\\'
      · subst hbackslash
        exact ⟨by simp [escaped_backslash], rfl⟩
      · have hshort : ¬['"', '"', '"'] <+: [c] := fun h => by simpa using h.length_le
        rw [escaped_cons hbackslash hshort]
        exact ⟨by simpa [escaped] using hc, readBody_cons hc hbackslash rest⟩
    rw [escaped_concat s hc, List.append_assoc, readsAs_escaped s _ hlast.1, hlast.2,
      readBefore_readBefore]

/-- **Behind its guard an escaped text is read back whatever follows**, with the guard. -/
theorem readBody_guardEnd (s rest : List Char) :
    readBody (guardEnd (escaped s) ++ rest) = readBefore (guardEnd s) (readBody rest) := by
  unfold guardEnd
  rw [getLast?_escaped]
  by_cases h : s.getLast? = some '"'
  · rw [h]
    have hspace := readsAs_escaped s (' ' :: rest) (by simp)
    rw [readBody_cons (by decide) (by decide), readBefore_readBefore] at hspace
    simpa using hspace
  · have hlast : (s.getLast? == some '"') = false := beq_eq_false_iff_ne.2 h
    rw [hlast]
    exact readBody_escaped h rest

/-! ## Documentation -/

theorem toList_docstring (text : Option String) (fallback : String) :
    (docstring text fallback).toList = guardEnd (escaped (documented text fallback).toList) :=
  String.toList_ofList

/-- Documentation is read back with its guard, whatever follows it. -/
theorem readBody_docstring (text : Option String) (fallback : String) (rest : List Char) :
    readBody ((docstring text fallback).toList ++ rest) =
      readBefore (guardEnd (documented text fallback).toList) (readBody rest) := by
  rw [toList_docstring, readBody_guardEnd]

/-- **Documentation between triple quotes is read back.** What is read up to the last quote is the
text, or the fallback where the text is missing or empty, as words with one space between each two,
and one space more exactly if that ends in a quote. -/
theorem readLiteral_docstring (text : Option String) (fallback : String) :
    let words := Text.squeeze (if text.getD "" = "" then fallback else text.getD "")
    readLiteral (tripleQuoted (docstring text fallback)).toList =
      some (words.toList ++ if words.toList.getLast? = some '"' then [' '] else [], []) := by
  intro words
  have hdocumented : documented text fallback = words := by
    unfold documented words
    simp
  have hquotes : (tripleQuoted (docstring text fallback)).toList =
      '"' :: '"' :: '"' :: ((docstring text fallback).toList ++ ['"', '"', '"']) := by
    simp [tripleQuoted]
  have hclose : readBody ['"', '"', '"'] = some ([], []) := rfl
  rw [hquotes, readLiteral, readBody_docstring, hdocumented, hclose]
  unfold guardEnd
  by_cases h : words.toList.getLast? = some '"' <;> simp [h, readBefore]

/-- Quotes in a row, behind a backslash and at the end. -/
example : readLiteral (tripleQuoted (docstring (some "a\\\"\"\"\"  \"b\\\\\"\"") "")).toList =
    some ("a\\\"\"\"\" \"b\\\\\"\" ".toList, []) := by decide +kernel

end ApiBindings.Bindings
