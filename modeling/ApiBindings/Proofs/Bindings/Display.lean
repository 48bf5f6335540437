import Mathlib.Data.List.Nodup
import ApiBindings.Bindings.Class
import ApiBindings.Proofs.Entries
import ApiBindings.Proofs.Text.Casing
/-!
# Reading generated code

The text of a dictionary whose keys and values are plain quoted texts, read from its opening brace
to its closing brace, and the value that such a dictionary has for a key. The reader accepts only
texts without escapes and wants a comma behind every entry, so what it accepts has one reading.
Identifiers hold no character that could end such a text or a name. Main statement: entries written
line by line are read back (`readEntries_lines`).
-/

namespace ApiBindings.Bindings

open Text

/-! ## The reader -/

/-- A character that stands for itself between double quotes. -/
def isPlain (c : Char) : Bool := c ∉ ['"', '\\', '\n', '\r']

/-- A character that may stand between the parts of a display. -/
def isLayout (c : Char) : Bool := c ∈ [' ', '\t', '\n']

/-- The text in double quotes, and what follows it. -/
def readQuoted : List Char → Option (String × List Char)
  | '"' :: s =>
    match s.dropWhile isPlain with
    | '"' :: rest => some (String.ofList (s.takeWhile isPlain), rest)
    | _ => none
  | _ => none

/-- A key, a colon, a value and a comma, and what follows them. -/
def readEntry (s : List Char) : Option ((String × String) × List Char) := do
  let (key, s) ← readQuoted s
  let s ← dropStart? [':'] (s.dropWhile isLayout)
  let (value, s) ← readQuoted (s.dropWhile isLayout)
  let s ← dropStart? [','] (s.dropWhile isLayout)
  some ((key, value), s)

/-- A quoted text is left behind. -/
theorem length_lt_of_readQuoted {s rest : List Char} {t : String}
    (h : readQuoted s = some (t, rest)) : rest.length < s.length := by
  unfold readQuoted at h
  split at h
  · rename_i s'
    split at h
    · rename_i rest' hrest
      obtain ⟨-, rfl⟩ := by simpa using h
      have hsuffix := (List.dropWhile_suffix (l := s') isPlain).length_le
      rw [hrest, List.length_cons] at hsuffix
      rw [List.length_cons]
      omega
    · simp at h
  · simp at h

/-- What follows a beginning is no longer than the text. -/
theorem length_le_of_dropStart? {p s rest : List Char} (h : dropStart? p s = some rest) :
    rest.length ≤ s.length := by
  rw [dropStart?_eq_some_iff.1 h]
  simp

/-- An entry is left behind. -/
theorem length_lt_of_readEntry {s rest : List Char} {e : String × String}
    (h : readEntry s = some (e, rest)) : rest.length < s.length := by
  simp only [readEntry, bind, Option.bind_eq_some_iff, Prod.exists] at h
  obtain ⟨key, s₁, hkey, s₂, hcolon, value, s₃, hvalue, s₄, hcomma, he⟩ := h
  obtain ⟨-, rfl⟩ := by simpa using he
  have hskip := fun s : List Char => (List.dropWhile_suffix (l := s) isLayout).length_le
  have h₁ := length_lt_of_readQuoted hkey
  have h₂ := length_le_of_dropStart? hcolon
  have h₃ := length_lt_of_readQuoted hvalue
  have h₄ := length_le_of_dropStart? hcomma
  have := hskip s₁
  have := hskip s₂
  have := hskip s₃
  omega

/-- The entries up to the closing brace, and what follows it. -/
def readEntries (s : List Char) : Option (List (String × String) × List Char) :=
  match _hs : s.dropWhile isLayout with
  | '}' :: rest => some ([], rest)
  | _ =>
    match _h : readEntry (s.dropWhile isLayout) with
    | none => none
    | some (e, rest) => (readEntries rest).map fun (es, rest) => (e :: es, rest)
termination_by s.length
decreasing_by
  exact Nat.lt_of_lt_of_le (length_lt_of_readEntry _h) (List.dropWhile_suffix _).length_le

/-- The entries of a display, and what follows it. -/
def readDisplay : List Char → Option (List (String × String) × List Char)
  | '{' :: s => readEntries s
  | _ => none

/-- The value for a key: of several entries for one key the last counts. -/
def valueOf (entries : List (String × String)) (key : String) : Option String :=
  entries.reverse.lookup key

/-! ## What is read back -/

/-- A plain text in double quotes is read back. -/
theorem readQuoted_quoted {t : String} (h : t.toList.all isPlain = true) (rest : List Char) :
    readQuoted ('"' :: (t.toList ++ '"' :: rest)) = some (t, rest) := by
  have hplain : ∀ c ∈ t.toList, isPlain c = true := by simpa using h
  have hquote : isPlain '"' = false := by decide
  simp only [readQuoted, Text.takeWhile_stop hplain hquote, Text.dropWhile_stop hplain hquote,
    String.ofList_toList]

/-- The line of an entry. -/
def entryLine (e : String × String) : String := "\t\t\"" ++ e.1 ++ "\": \"" ++ e.2 ++ "\","

/-- An entry of plain texts is read back. -/
theorem readEntry_entry {e : String × String} (hkey : e.1.toList.all isPlain = true)
    (hvalue : e.2.toList.all isPlain = true) (rest : List Char) :
    readEntry ('"' :: (e.1.toList ++
      '"' :: ':' :: ' ' :: '"' :: (e.2.toList ++ '"' :: ',' :: rest))) = some (e, rest) := by
  unfold readEntry
  rw [readQuoted_quoted hkey]
  simp only [bind, Option.bind_some]
  have hcolon : ∀ s : List Char, (':' :: s).dropWhile isLayout = ':' :: s := fun s => rfl
  have hspace : ∀ s : List Char, (' ' :: '"' :: s).dropWhile isLayout = '"' :: s := fun s => rfl
  have hcomma : ∀ s : List Char, (',' :: s).dropWhile isLayout = ',' :: s := fun s => rfl
  rw [hcolon, dropStart?_eq_some_iff.2 (List.singleton_append ..).symm]
  simp only [Option.bind_some, hspace]
  rw [readQuoted_quoted hvalue]
  simp only [Option.bind_some, hcomma]
  rw [dropStart?_eq_some_iff.2 (List.singleton_append ..).symm]
  rfl

/-- Layout before an entry is passed over. -/
theorem readEntries_layout {c : Char} (hc : isLayout c = true) (s : List Char) :
    readEntries (c :: s) = readEntries s := by
  rw [readEntries, readEntries, List.dropWhile_cons_of_pos hc]

/-- The closing brace ends the display. -/
theorem readEntries_close (rest : List Char) : readEntries ('}' :: rest) = some ([], rest) := by
  rw [readEntries]
  rfl

/-- An entry is read before those behind it. -/
theorem readEntries_entry {s rest : List Char} {e : String × String}
    (h : readEntry ('"' :: s) = some (e, rest)) :
    readEntries ('"' :: s) = (readEntries rest).map fun (es, rest) => (e :: es, rest) := by
  have hlayout : ('"' :: s).dropWhile isLayout = '"' :: s := rfl
  rw [readEntries]
  split
  · rename_i rest' hs
    rw [hlayout] at hs
    simp at hs
  · split
    · rename_i hnone
      rw [hlayout, h] at hnone
      simp at hnone
    · rename_i e' rest' hsome
      rw [hlayout, h] at hsome
      obtain ⟨rfl, rfl⟩ := by simpa using hsome
      rfl

/-- **Entries written line by line are read back.** -/
theorem readEntries_lines {es : List (String × String)}
    (h : ∀ e ∈ es, e.1.toList.all isPlain = true ∧ e.2.toList.all isPlain = true)
    (rest : List Char) :
    readEntries ((es.flatMap fun e => (entryLine e).toList ++ ['\n']) ++ '\t' :: '}' :: rest)
      = some (es, rest) := by
  -- the reader looks at one entry at a time, so the entries behind it are part of what follows
  induction es with
  | nil =>
    rw [List.flatMap_nil, List.nil_append, readEntries_layout (by decide), readEntries_close]
  | cons e es ih =>
    rw [List.forall_mem_cons] at h
    have hline : ∀ s : List Char, (entryLine e).toList ++ s =
        '\t' :: '\t' :: '"' :: (e.1.toList ++
          '"' :: ':' :: ' ' :: '"' :: (e.2.toList ++ '"' :: ',' :: s)) := by
      intro s
      simp [entryLine]
    rw [List.flatMap_cons, List.append_assoc, List.append_assoc, hline,
      readEntries_layout (by decide), readEntries_layout (by decide),
      readEntries_entry (readEntry_entry h.1.1 h.1.2 _), List.singleton_append,
      readEntries_layout (by decide), ih h.2]
    rfl

/-! ## The value for a key -/

/-- If no key is repeated, each entry gives the value for its key. -/
theorem valueOf_of_mem {es : List (String × String)} (h : (es.map Prod.fst).Nodup)
    {e : String × String} (he : e ∈ es) : valueOf es e.1 = some e.2 := by
  rw [← List.nodup_reverse, ← List.map_reverse] at h
  exact lookup_of_mem h (List.mem_reverse.mpr he)

/-! ## Lines of code -/

/-- Each line of a code is ended. -/
theorem toList_codeText {ls : List String} (h : ls ≠ []) :
    (codeText ls).toList = ls.flatMap fun l => l.toList ++ ['\n'] := by
  rw [codeText, unlines, String.toList_append, String.toList_intercalate]
  induction ls with
  | nil => exact absurd rfl h
  | cons l ls ih =>
    cases ls with
    | nil => simp
    | cons l' ls =>
      have := ih (by simp)
      simp only [List.map_cons, List.flatMap_cons] at this ⊢
      rw [List.intercalate_cons_cons, List.append_assoc, this]
      simp

/-! ## Delimiters -/

/-- The characters around a quoted text or a name, and those that no quoted text holds as they
are. -/
def delimiters : List Char := ['"', '\\', '\n', '\r', ':', '(', ' ', '\t']

/-- What keeps a character out of names: it is no letter of identifiers, case never makes it or
takes it away, and it is neither a digit nor the underscore that names may get at their end. -/
structure IsApart (c : Char) : Prop where
  notStart : isIdentifierStart c = false
  notContinue : isIdentifierContinue c = false
  caseless : isCaseless c = true
  unmade : isUnmade c = true
  notDigit : c.isDigit = false
  ne_underscore : c ≠ '_'

/-- Delimiters are kept out of names. -/
theorem delimiters_apart : ∀ c ∈ delimiters, IsApart c := by
  have hstart : (delimiters.all fun c => isIdentifierStart c == false) = true := by decide +kernel
  have hcontinue : (delimiters.all fun c => isIdentifierContinue c == false) = true := by
    decide +kernel
  have hcaseless : delimiters.all isCaseless = true := by decide +kernel
  have hunmade : delimiters.all isUnmade = true := by decide +kernel
  have hdigit : (delimiters.all fun c => c.isDigit == false) = true := by decide
  have hunderscore : (delimiters.all fun c => c != '_') = true := by decide
  simp only [List.all_eq_true, beq_iff_eq, bne_iff_ne] at *
  intro c hc
  exact ⟨hstart c hc, hcontinue c hc, hcaseless c hc, hunmade c hc, hdigit c hc,
    hunderscore c hc⟩

/-- An identifier holds no delimiter. -/
theorem delimiter_not_mem_of_isIdentifier {name : String} (h : Naming.isIdentifier name = true)
    {c : Char} (hc : c ∈ delimiters) : c ∉ name.toList := by
  have hapart := delimiters_apart c hc
  unfold Naming.isIdentifier at h
  cases hname : name.toList with
  | nil => simp
  | cons d ds =>
    simp only [hname, Bool.and_eq_true, List.all_eq_true] at h
    rw [List.mem_cons, not_or]
    constructor
    · rintro rfl
      exact absurd h.1 (by simp [hapart.notStart])
    · intro hmem
      exact absurd (h.2 c hmem) (by simp [hapart.notContinue])

/-- Layout separates. -/
theorem mem_delimiters_of_isLayout {c : Char} (h : isLayout c = true) : c ∈ delimiters := by
  have hmem : c ∈ [' ', '\t', '\n'] := of_decide_eq_true h
  have hsub : [' ', '\t', '\n'] ⊆ delimiters := by decide
  exact hsub hmem

/-- A text without delimiters is plain. -/
theorem all_isPlain {s : List Char} (h : ∀ c ∈ delimiters, c ∉ s) : s.all isPlain = true := by
  have hsub : ['"', '\\', '\n', '\r'] ⊆ delimiters := by decide
  rw [List.all_eq_true]
  intro c hc
  apply decide_eq_true
  intro hmem
  exact h c (hsub hmem) hc

end ApiBindings.Bindings
