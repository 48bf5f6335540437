import ApiBindings.Proofs.Bindings.Leaves
import ApiBindings.Proofs.Bindings.PrintedNames
import ApiBindings.Proofs.Entries
import Mathlib.Algebra.GroupWithZero.Nat
/-!
# Line breaks in the code of a definition

Code is put together from lines, and a line stays one only if nothing in it breaks it. Wire names
are letters of identifiers, documentation is words with spaces between them, and neither holds a
line break; but a title and the scalars of a type are written as they are. Main statements: how
many line breaks the code of a record has (`breaks_recordCode`), and that of an operation
(`breaks_operationCode`).
-/

namespace ApiBindings.Bindings

open Reference (Field)
open Text (isBlank isIdentifierContinue)

/-! ## Counting -/

/-- `p` picks out characters that break a line, the line feed among them. -/
structure PicksBreaks (p : Char → Bool) : Prop where
  lineFeed : p '\n' = true
  only : ∀ c, p c = true → c ∈ lineBreaks

/-- The number of characters of a text that `p` picks out. -/
def breaks (p : Char → Bool) (s : String) : Nat := s.toList.countP p

section Breaks

variable {p : Char → Bool}

theorem breaks_append (s t : String) : breaks p (s ++ t) = breaks p s + breaks p t := by
  unfold breaks
  rw [String.toList_append, List.countP_append]

theorem breaks_eq_zero_iff {s : String} : breaks p s = 0 ↔ ∀ c ∈ s.toList, p c = false := by
  simp [breaks, List.countP_eq_zero]

/-- A text without any of the characters that break a line. -/
theorem breaks_of_plain (hp : PicksBreaks p) {s : String}
    (h : s.toList.all (fun c => !lineBreaks.contains c) = true) : breaks p s = 0 := by
  rw [breaks_eq_zero_iff]
  intro c hc
  have hplain := List.all_eq_true.1 h c hc
  rw [Bool.eq_false_iff]
  intro hbreak
  rw [List.contains_iff_mem.2 (hp.only c hbreak)] at hplain
  exact absurd hplain (by decide)

/-- What may stand in identifiers breaks no line. -/
theorem breaks_of_continue (hp : PicksBreaks p) {s : String}
    (h : ∀ c ∈ s.toList, isIdentifierContinue c = true) : breaks p s = 0 := by
  have hbreaks : (lineBreaks.all fun c => !isIdentifierContinue c) = true := by decide +kernel
  rw [breaks_eq_zero_iff]
  intro c hc
  rw [Bool.eq_false_iff]
  intro hbreak
  exact Naming.not_mem_of_forall_continue hbreaks h c (hp.only c hbreak) hc

/-- Trimming the end of a line brings no break into it. -/
theorem breaks_trimEnd {s : String} (h : breaks p s = 0) : breaks p (Text.trimEnd s) = 0 := by
  rw [breaks_eq_zero_iff] at h ⊢
  intro c hc
  rw [Text.trimEnd, String.toList_ofList] at hc
  exact h c ((Text.trimmedEnd_isPrefix _).subset hc)

/-! ## Documentation -/

/-- A space, a backslash or a character that is not blank breaks no line. -/
theorem eq_false_of_documented (hp : PicksBreaks p) {c : Char}
    (h : c = ' ' ∨ c = '\\' ∨ isBlank c = false) : p c = false := by
  have hblanks : lineBreaks.all (fun c => isBlank c && c != ' ' && c != '\\') = true := by
    decide +kernel
  rw [Bool.eq_false_iff]
  intro hbreak
  have hblank := List.all_eq_true.1 hblanks c (hp.only c hbreak)
  simp only [Bool.and_eq_true, bne_iff_ne] at hblank
  obtain ⟨⟨hc, hspace⟩, hbackslash⟩ := hblank
  rcases h with h | h | h
  · exact hspace h
  · exact hbackslash h
  · rw [hc] at h
    cases h

/-- Squeezed words hold spaces and characters that are not blank. -/
theorem mem_squeeze {s : String} {c : Char} (h : c ∈ (Text.squeeze s).toList) :
    c = ' ' ∨ isBlank c = false := by
  have hjoined : ∀ ws : List (List Char), (∀ w ∈ ws, ∀ d ∈ w, isBlank d = false) →
      c ∈ List.intercalate [' '] ws → c = ' ' ∨ isBlank c = false := by
    intro ws hws hc
    induction ws with
    | nil => cases hc
    | cons w ws ih =>
      rw [List.forall_mem_cons] at hws
      cases ws with
      | nil => exact Or.inr (hws.1 c (by simpa using hc))
      | cons w' ws =>
        rw [List.intercalate_cons_cons, List.mem_append, List.mem_append] at hc
        rcases hc with (hc | hc) | hc
        · exact Or.inr (hws.1 c hc)
        · exact Or.inl (List.mem_singleton.1 hc)
        · exact ih hws.2 hc
  unfold Text.squeeze at h
  rw [String.toList_ofList] at h
  refine hjoined _ ?_ h
  intro w hw
  exact Text.not_separator_of_mem_pieces isBlank s.toList w (List.mem_of_mem_filter hw)

/-- Doubling backslashes brings in nothing else. -/
theorem mem_escapeBackslashes {s : List Char} {c : Char} (h : c ∈ escapeBackslashes s) :
    c = '\\' ∨ c ∈ s := by
  obtain ⟨d, hd, hc⟩ := List.mem_flatMap.1 h
  split at hc
  · exact Or.inl (by simpa using hc)
  · obtain rfl := List.mem_singleton.1 hc
    exact Or.inr hd

/-- Escaping triples of quotes brings in backslashes and nothing else. -/
theorem mem_escapeTriples {s : List Char} {c : Char} (h : c ∈ escapeTriples s) :
    c = '\\' ∨ c ∈ s := by
  fun_induction escapeTriples s with
  | case1 rest ih =>
    rcases List.mem_append.1 h with h | h
    · have hsub : ['\\', '"', '\\', '"', '\\', '"'] ⊆ ['\\', '"'] := by decide
      have hquote : c = '\\' ∨ c = '"' := by simpa using hsub h
      rcases hquote with h | rfl
      · exact Or.inl h
      · exact Or.inr List.mem_cons_self
    · rcases ih h with h | h
      · exact Or.inl h
      · exact Or.inr (by simp [h])
  | case2 d rest hne ih =>
    rcases List.mem_cons.1 h with rfl | h
    · exact Or.inr List.mem_cons_self
    · rcases ih h with h | h
      · exact Or.inl h
      · exact Or.inr (List.mem_cons_of_mem d h)
  | case3 => cases h

/-- The guard at the end is a space. -/
theorem mem_guardEnd {s : List Char} {c : Char} (h : c ∈ guardEnd s) : c = ' ' ∨ c ∈ s := by
  unfold guardEnd at h
  split at h
  · rcases List.mem_append.1 h with h | h
    · exact Or.inr h
    · exact Or.inl (List.mem_singleton.1 h)
  · exact Or.inr h

/-- **Documentation stays on its line**, whatever is documented. -/
theorem breaks_docstring (hp : PicksBreaks p) (text : Option String) (fallback : String) :
    breaks p (docstring text fallback) = 0 := by
  rw [breaks_eq_zero_iff]
  intro c hc
  apply eq_false_of_documented hp
  rw [docstring, String.toList_ofList] at hc
  rcases mem_guardEnd hc with h | hc
  · exact Or.inl h
  · rcases mem_escapeTriples hc with h | hc
    · exact Or.inr (Or.inl h)
    · rcases mem_escapeBackslashes hc with h | hc
      · exact Or.inr (Or.inl h)
      · rcases mem_squeeze hc with h | h
        · exact Or.inl h
        · exact Or.inr (Or.inr h)

/-! ## Types -/

/-- The scalars of a field's type as they are written. -/
def writtenLeaves (n : Names) (f : Field) : List String :=
  ((f.type.map TypeExpr.leaves).getD []).map n.scalar

/-- The number of breaks in several texts. -/
def breaksAll (p : Char → Bool) (ts : List String) : Nat := (ts.map (breaks p)).sum

theorem breaksAll_append (ss ts : List String) :
    breaksAll p (ss ++ ts) = breaksAll p ss + breaksAll p ts := by
  simp [breaksAll]

/-- Several texts have no breaks exactly if none of them has. -/
theorem breaksAll_eq_zero_iff {ts : List String} :
    breaksAll p ts = 0 ↔ ∀ t ∈ ts, breaks p t = 0 := by
  induction ts with
  | nil => simp [breaksAll]
  | cons t ts ih =>
    unfold breaksAll at ih ⊢
    rw [List.map_cons, List.sum_cons, Nat.add_eq_zero_iff, ih, List.forall_mem_cons]

/-- Fixed lines without any of the characters that break a line. -/
theorem breaksAll_of_plain (hp : PicksBreaks p) (ls : List String)
    (h : ls.all (fun l => l.toList.all fun c => !lineBreaks.contains c) = true) :
    breaksAll p ls = 0 := by
  rw [breaksAll_eq_zero_iff]
  intro l hl
  exact breaks_of_plain hp (List.all_eq_true.1 h l hl)

/-- A type has the breaks of its scalars. -/
theorem breaks_type (hp : PicksBreaks p) (n : Names) (t : TypeExpr) :
    breaks p (n.type t) = breaksAll p (t.leaves.map n.scalar) := by
  induction t with
  | scalar name => simp [Names.type, TypeExpr.leaves, breaksAll]
  | list item ih =>
    rw [Names.type, breaks_append, breaks_append, ih, TypeExpr.leaves,
      breaks_of_plain hp (s := "list[") (by decide), breaks_of_plain hp (s := "]") (by decide)]
    omega
  | sum left right ihl ihr =>
    rw [Names.type]
    simp (disch := decide) only [breaks_append, breaks_of_plain hp, ihl, ihr]
    rw [TypeExpr.leaves, List.map_append, breaksAll_append]
    omega

theorem breaks_fieldType (hp : PicksBreaks p) (n : Names) (f : Field) :
    breaks p (n.fieldType f) = breaksAll p (writtenLeaves n f) := by
  have htype : breaks p ((f.type.map n.type).getD "") = breaksAll p (writtenLeaves n f) := by
    unfold writtenLeaves
    cases f.type with
    | none => rfl
    | some t => exact breaks_type hp n t
  unfold Names.fieldType
  dsimp only
  split
  · simp (disch := decide) only [breaks_append, breaks_of_plain hp, htype, Nat.zero_add,
      Nat.add_zero]
  · exact htype

/-! ## Lines -/

/-- Each line of a code is ended by one break, and has its own. -/
theorem breaks_codeText (hp : PicksBreaks p) {ls : List String} (h : ls ≠ []) :
    breaks p (codeText ls) = ls.length + breaksAll p ls := by
  unfold breaks breaksAll
  rw [toList_codeText h]
  clear h
  induction ls with
  | nil => rfl
  | cons l ls ih =>
    have hend : ['\n'].countP p = 1 := by simp [hp.lineFeed]
    rw [List.flatMap_cons, List.countP_append, List.countP_append, hend, ih, List.length_cons,
      List.map_cons, List.sum_cons, breaks]
    omega

section Fields

variable (hp : PicksBreaks p) {f : Field}

include hp

/-- The names of a complete field break no line. -/
theorem breaks_names (h : f.isComplete = true) :
    breaks p (propertyName f) = 0 ∧ breaks p (wireName f) = 0 :=
  ⟨breaks_of_continue hp (Naming.forall_continue_of_isIdentifier (isIdentifier_propertyName h).1),
    breaks_of_continue hp (forall_continue_wireName h)⟩

theorem breaks_keyLine (h : f.isComplete = true) : breaks p (keyLine f) = 0 := by
  obtain ⟨hproperty, hwire⟩ := breaks_names hp h
  unfold keyLine
  simp (disch := decide) only [breaks_append, breaks_of_plain hp, hproperty, hwire]

theorem breaks_bodyLine (h : f.isComplete = true) : breaks p (bodyLine f) = 0 := by
  obtain ⟨hproperty, hwire⟩ := breaks_names hp h
  unfold bodyLine
  simp (disch := decide) only [breaks_append, breaks_of_plain hp, hproperty, hwire]

theorem breaks_defaultText : breaks p (defaultText f) = 0 := by
  unfold defaultText
  split
  · exact breaks_of_plain hp (by decide)
  · exact breaks_of_plain hp (by decide)

/-- The declaration of a property has the breaks of its type. -/
theorem breaksAll_propertyLines (n : Names) (h : f.isComplete = true) :
    breaksAll p (propertyLines n f) = breaksAll p (writtenLeaves n f) := by
  have hcomment : breaks p (Text.trimEnd ("\t#: " ++ docstring f.description "")) = 0 := by
    apply breaks_trimEnd
    rw [breaks_append, breaks_docstring hp, breaks_of_plain hp (by decide)]
  unfold propertyLines breaksAll
  rw [List.map_cons, List.map_cons, List.map_singleton, hcomment]
  simp (disch := decide) only [breaks_append, breaks_of_plain hp, (breaks_names hp h).1,
    breaks_defaultText hp, breaks_fieldType hp]
  simp [breaksAll]

/-- The parameter of a field has the breaks of its type. -/
theorem breaks_parameterLine (n : Names) (h : f.isComplete = true) :
    breaks p (parameterLine n f) = breaksAll p (writtenLeaves n f) := by
  unfold parameterLine
  simp (disch := decide) only [breaks_append, breaks_of_plain hp, (breaks_names hp h).1,
    breaks_defaultText hp, breaks_fieldType hp, Nat.zero_add, Nat.add_zero]

end Fields

/-! ## Definitions -/

/-- The breaks in the written types of several fields. -/
def typeBreaks (p : Char → Bool) (n : Names) (fields : List Field) : Nat :=
  breaksAll p (fields.flatMap (writtenLeaves n))

theorem typeBreaks_cons (n : Names) (f : Field) (fields : List Field) :
    typeBreaks p n (f :: fields) = breaksAll p (writtenLeaves n f) + typeBreaks p n fields := by
  unfold typeBreaks
  rw [List.flatMap_cons, breaksAll_append]

/-- Lines of fields that have no breaks. -/
theorem breaksAll_map_eq_zero {fields : List Field} {line : Field → String}
    (h : ∀ f ∈ fields, breaks p (line f) = 0) : breaksAll p (fields.map line) = 0 := by
  rw [breaksAll_eq_zero_iff]
  intro l hl
  obtain ⟨f, hf, rfl⟩ := List.mem_map.1 hl
  exact h f hf

section Definitions

variable (hp : PicksBreaks p)

include hp

/-- The properties of complete fields have the breaks of their types. -/
theorem breaksAll_properties (n : Names) {fields : List Field}
    (complete : ∀ f ∈ fields, f.isComplete = true) :
    breaksAll p (fields.flatMap (propertyLines n)) = typeBreaks p n fields := by
  induction fields with
  | nil => rfl
  | cons f fields ih =>
    rw [List.forall_mem_cons] at complete
    rw [List.flatMap_cons, breaksAll_append, typeBreaks_cons, ih complete.2,
      breaksAll_propertyLines hp n complete.1]

/-- The parameters of complete fields have the breaks of their types. -/
theorem breaksAll_parameters (n : Names) {fields : List Field}
    (complete : ∀ f ∈ fields, f.isComplete = true) :
    breaksAll p (fields.map (parameterLine n)) = typeBreaks p n fields := by
  induction fields with
  | nil => rfl
  | cons f fields ih =>
    rw [List.forall_mem_cons] at complete
    rw [typeBreaks_cons, ← ih complete.2, ← breaks_parameterLine hp n complete.1]
    simp [breaksAll]

/-- The number of lines of a record with `k` fields. -/
def recordLength (k : Nat) : Nat := if k = 0 then 4 else 5 + 4 * k

/-- The number of lines of an operation with `k` fields. -/
def operationLength (k : Nat) : Nat := if k = 0 then 7 else 11 + 3 * k

/-- The head of a record has the breaks of its title. -/
theorem breaksAll_recordHead {bases : List (String × String)} (r : Record)
    (hbases : ∀ base ∈ bases.map Prod.snd, breaks p base = 0) :
    breaksAll p (recordHead bases r) = breaks p r.title := by
  have hbase : breaks p ((bases.lookup r.title).getD defaultBase) = 0 := by
    rcases lookup_getD bases r.title defaultBase with h | h
    · rw [h]
      exact breaks_of_plain hp (by decide)
    · exact hbases _ h
  unfold recordHead tripleQuoted breaksAll
  rw [List.map_cons, List.map_cons, List.map_singleton]
  simp (disch := decide) only [breaks_append, breaks_of_plain hp, breaks_docstring hp, hbase]
  simp

/-- **The code of a record** with complete fields has one line break a line, and those of its title
and of the scalars of its types. -/
theorem breaks_recordCode (n : Names) {bases : List (String × String)} {r : Record}
    (complete : ∀ f ∈ r.fields, f.isComplete = true)
    (hbases : ∀ base ∈ bases.map Prod.snd, breaks p base = 0) :
    breaks p (recordCode n bases r) =
      recordLength r.fields.length + breaks p r.title + typeBreaks p n r.fields := by
  -- besides the breaks between lines, only the head and the properties have any
  have hhead := breaksAll_recordHead hp r hbases
  have hkeys := breaksAll_map_eq_zero fun f hf => breaks_keyLine hp (complete f hf)
  unfold recordCode
  rw [breaks_codeText hp (by simp [recordHead]), breaksAll_append, List.length_append, hhead]
  have hlength : (recordHead bases r).length = 3 := rfl
  cases hfields : r.fields with
  | nil =>
    rw [List.isEmpty_nil, if_pos rfl, hlength,
      breaksAll_of_plain hp ["\tmodel_config = ConfigDict(frozen=True)"] (by decide)]
    simp only [recordLength, typeBreaks, breaksAll, List.length_singleton]
    simp
  | cons f fields =>
    rw [hfields] at complete hkeys
    have hproperties : ∀ fields : List Field,
        (fields.flatMap (propertyLines n)).length = 3 * fields.length := by
      intro fields
      simp [List.length_flatMap, propertyLines, Nat.mul_comm]
    rw [List.isEmpty_cons, if_neg (by decide), breaksAll_append, breaksAll_append, breaksAll_append,
      hkeys, breaksAll_properties hp n complete, hlength,
      breaksAll_of_plain hp ["\tmodel_config = wire_config(\x7b"] (by decide),
      breaksAll_of_plain hp ["\t\x7d)"] (by decide), List.length_append, List.length_append,
      List.length_append, hproperties, recordLength, if_neg (by simp)]
    simp only [List.length_map, List.length_cons, List.length_nil]
    omega

/-- Escaping a keyword breaks no line. -/
theorem breaks_escapeKeyword (name : String) :
    breaks p (Naming.escapeKeyword name) = breaks p name := by
  unfold Naming.escapeKeyword
  split
  · rw [breaks_append, breaks_of_plain hp (s := "_") (by decide)]
    rfl
  · rfl

/-- The signature of an operation has the breaks of its title and of the scalars of its types. -/
theorem breaksAll_signature (n : Names) {o : Operation}
    (complete : ∀ f ∈ o.fields, f.isComplete = true) :
    breaksAll p (signature n o) = breaks p o.title + typeBreaks p n o.fields := by
  have hparameters := breaksAll_parameters hp n complete
  unfold signature
  dsimp only
  cases hfields : o.fields with
  | nil =>
    rw [List.isEmpty_nil, if_pos rfl]
    simp (disch := decide) only [breaksAll, List.map_singleton, breaks_append, breaks_of_plain hp,
      breaks_escapeKeyword hp]
    simp [typeBreaks, breaksAll]
  | cons f fields =>
    rw [hfields] at hparameters
    rw [List.isEmpty_cons, if_neg (by decide), breaksAll_append, breaksAll_append, hparameters,
      breaksAll_of_plain hp [") -> Request:"] (by decide)]
    have hopen : breaksAll p ["def " ++ Naming.escapeKeyword o.title ++ "(", "\t*,"] =
        breaks p o.title := by
      simp (disch := decide) only [breaksAll, List.map_cons, List.map_nil, breaks_append,
        breaks_of_plain hp, breaks_escapeKeyword hp]
      simp
    rw [hopen]
    rfl

/-- The body of an operation has the breaks of its title. -/
theorem breaksAll_functionBody {o : Operation} (complete : ∀ f ∈ o.fields, f.isComplete = true) :
    breaksAll p (functionBody o) = breaks p o.title := by
  have hparams : breaksAll p (o.fields.map fun f =>
      Text.trimEnd ("\t:param " ++ propertyName f ++ ": " ++ docstring f.description "")) = 0 := by
    refine breaksAll_map_eq_zero fun f hf => ?_
    apply breaks_trimEnd
    simp (disch := decide) only [breaks_append, breaks_of_plain hp, breaks_docstring hp,
      (breaks_names hp (complete f hf)).1]
  have hbodies := breaksAll_map_eq_zero fun f hf => breaks_bodyLine hp (complete f hf)
  have hopen : breaksAll p ["\t\"\"\"" ++ docstring o.note o.title, ""] = 0 := by
    simp (disch := decide) only [breaksAll, List.map_cons, List.map_nil, breaks_append,
      breaks_of_plain hp, breaks_docstring hp]
    simp
  unfold functionBody
  rw [breaksAll_append, breaksAll_append, breaksAll_append, hopen, hparams,
    breaksAll_of_plain hp ["\t" ++ returnsLine, "\t\"\"\""] (by decide)]
  cases hfields : o.fields with
  | nil =>
    rw [List.isEmpty_nil, if_pos rfl]
    simp (disch := decide) only [breaksAll, List.map_singleton, breaks_append, breaks_of_plain hp]
    simp
  | cons f fields =>
    rw [hfields] at hbodies
    rw [List.isEmpty_cons, if_neg (by decide), breaksAll_append, breaksAll_append, hbodies,
      breaksAll_of_plain hp ["\tparameters = \x7b"] (by decide)]
    simp (disch := decide) only [breaksAll, List.map_cons, List.map_nil, breaks_append,
      breaks_of_plain hp]
    simp

/-- **The code of an operation** with complete fields has one line break a line, twice those of its
title, and those of the scalars of its types. -/
theorem breaks_operationCode (n : Names) {o : Operation}
    (complete : ∀ f ∈ o.fields, f.isComplete = true) :
    breaks p (operationCode n o) =
      operationLength o.fields.length + 2 * breaks p o.title + typeBreaks p n o.fields := by
  have hlength : (["@staticmethod"] ++ signature n o ++ functionBody o).length =
      operationLength o.fields.length := by
    unfold signature functionBody operationLength
    cases o.fields with
    | nil => rfl
    | cons f fields =>
      simp
      omega
  unfold operationCode
  rw [breaks_codeText hp (by simp), hlength, breaksAll_append, breaksAll_append,
    breaksAll_of_plain hp ["@staticmethod"] (by decide), breaksAll_signature hp n complete,
    breaksAll_functionBody hp complete]
  omega

end Definitions

end Breaks

end ApiBindings.Bindings
