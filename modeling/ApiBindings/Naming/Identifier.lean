import ApiBindings.Text.CharClass
/-!
# Identifiers and keywords

Which texts may name something in a generated module, and the underscore that keeps a name apart
from the keywords of the language. Main statement: an escaped name is never a keyword
(`isKeyword_escapeKeyword`).
-/

namespace ApiBindings.Naming

/-- A letter or underscore, then letters, digits, marks and underscores, of any script. -/
def isIdentifier (name : String) : Bool :=
  match name.toList with
  | [] => false
  | c :: cs => Text.isIdentifierStart c && cs.all Text.isIdentifierContinue

/-- The words that the generated code reserves. -/
def keywords : List String := [
  "False", "None", "True", "and", "as", "assert", "async", "await", "break", "class", "continue",
  "def", "del", "elif", "else", "except", "finally", "for", "from", "global", "if", "import", "in",
  "is", "lambda", "nonlocal", "not", "or", "pass", "raise", "return", "try", "while", "with",
  "yield"]

/-- The name is reserved. -/
def isKeyword (name : String) : Bool := keywords.contains name

/-- A reserved name gets an underscore at its end. -/
def escapeKeyword (name : String) : String := if isKeyword name then name ++ "_" else name

/-- No reserved name ends in an underscore. -/
theorem isKeyword_append_underscore (name : String) : isKeyword (name ++ "_") = false := by
  have ends : ∀ k ∈ keywords, k.toList.getLast? ≠ some '_' := by decide
  cases h : isKeyword (name ++ "_") with
  | false => rfl
  | true => exact absurd (by simp) (ends (name ++ "_") (by simpa [isKeyword] using h))

/-- An escaped name is never reserved. -/
theorem isKeyword_escapeKeyword (name : String) : isKeyword (escapeKeyword name) = false := by
  unfold escapeKeyword
  split
  · exact isKeyword_append_underscore name
  · rename_i h
    simpa using h

/-- An escaped name is the name itself or ends in an underscore. -/
theorem escapeKeyword_eq_or (name : String) :
    escapeKeyword name = name ∨ escapeKeyword name = name ++ "_" := by
  unfold escapeKeyword
  split
  · right; rfl
  · left; rfl

/-- Escaping adds no character but the underscore. -/
theorem not_mem_escapeKeyword {c : Char} {name : String} (hc : c ≠ '_') (h : c ∉ name.toList) :
    c ∉ (escapeKeyword name).toList := by
  rcases escapeKeyword_eq_or name with he | he
  · rwa [he]
  · rw [he, String.toList_append, List.mem_append, not_or]
    exact ⟨h, by simpa using hc⟩

end ApiBindings.Naming
