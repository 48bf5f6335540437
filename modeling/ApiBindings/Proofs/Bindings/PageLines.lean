import ApiBindings.Proofs.Bindings.LineBreaks
import ApiBindings.Proofs.Bindings.StandIns
import ApiBindings.Proofs.Definition.Names
import ApiBindings.Proofs.TypeExpr.Spelling
/-!
# Line breaks that a page brings in

The code of a definition has as many lines as its fields ask for, unless the page or the settings
break one of them. Of the page only titles and type phrases can: names of properties and of the
wire are letters of identifiers, and documentation stays on its line. Main statement: how many line
breaks the code of each record and each operation of a page has, exactly when there are no more
than its lines, and that a scalar with a break is written as it stands in its phrase
(`breaks_of_scan`).
-/

namespace ApiBindings

open Reference (Field Scan Section)

namespace Bindings

/-! ## Written scalars -/

/-- The texts of the settings that are written into the code of a record or an operation: the names
that aliases stand for, the cases of unions, the written forms of scalars, and the base classes. -/
def writtenTexts (s : Settings) : List String :=
  s.aliases.map Prod.snd ++ s.unions.flatMap (·.cases) ++ s.scalars.map Prod.snd
    ++ s.bases.map Prod.snd

section Page

variable {p : Char → Bool} (hp : PicksBreaks p) {s : Settings}
  (hs : ∀ t ∈ writtenTexts s, breaks p t = 0) {text : String} {scan : Scan}
  (h : Reference.scan s.options text = .ok scan)

include hp hs h

/-- The cases of the unions of a page break no line. -/
theorem breaks_case {u : Union} (hu : .union u ∈ Definition.ofPage s.unions scan.sections) :
    ∀ case ∈ u.cases, breaks p case = 0 := by
  intro case hcase
  rcases List.mem_append.1 hu with hu | hu
  · -- a union of the settings
    obtain ⟨v, hv, heq⟩ := List.mem_map.1 hu
    cases heq
    apply hs
    simp only [writtenTexts, List.mem_append, List.mem_flatMap]
    exact Or.inl (Or.inl (Or.inr ⟨v, hv, hcase⟩))
  · -- a union of the page, whose labels are identifiers
    obtain ⟨sec, hsec, hof⟩ := List.mem_filterMap.1 hu
    obtain ⟨title, -, -, hcases⟩ := Reference.title_of_scan h hsec
    obtain ⟨title', first, rest, -, -, ⟨c, cs, hsome, heq⟩ | ⟨-, heq⟩ | ⟨-, heq⟩⟩ :=
      Definition.ofSection?_cases hof
    · cases heq
      exact breaks_of_continue hp (Naming.forall_continue_of_isIdentifier (hcases _ hsome _ hcase))
    · cases heq
    · cases heq

/-- What stands for a name is the name or breaks no line. -/
theorem standsFor_eq_or_breaks (name : String) :
    standsFor (Definition.ofPage s.unions scan.sections) name = name ∨
      breaks p (standsFor (Definition.ofPage s.unions scan.sections) name) = 0 := by
  unfold standsFor
  cases hu : lastNamed name (classless (Definition.ofPage s.unions scan.sections)) with
  | none => exact Or.inl rfl
  | some u =>
    refine Or.inr ?_
    show breaks p (standIn u) = 0
    have hcases := breaks_case hp hs h (mem_classless.1 (lastNamed_eq_some hu).1).1
    unfold standIn
    cases hlist : u.cases with
    | nil => exact breaks_of_plain hp (by decide)
    | cons case cases =>
      rw [hlist] at hcases
      exact hcases case List.mem_cons_self

/-- A written scalar with a break is the scalar itself. -/
theorem eq_of_breaks_scalar {name : String}
    (hbreaks : breaks p ((namesOf s (Definition.ofPage s.unions scan.sections)).scalar name) ≠ 0) :
    (namesOf s (Definition.ofPage s.unions scan.sections)).scalar name = name := by
  rw [scalar_namesOf] at hbreaks ⊢
  unfold writtenScalar at hbreaks ⊢
  -- only a name for which nothing stands, and that is not written in another way, is left
  rcases lookup_getD s.scalars (standsFor (Definition.ofPage s.unions scan.sections) name)
    (standsFor (Definition.ofPage s.unions scan.sections) name) with heq | hmem
  · rw [heq] at hbreaks ⊢
    rcases standsFor_eq_or_breaks hp hs h name with hname | hzero
    · exact hname
    · exact absurd hzero hbreaks
  · refine absurd (hs _ ?_) hbreaks
    simp only [writtenTexts, List.mem_append]
    exact Or.inl (Or.inr hmem)

/-- A written scalar with a break stands in the phrase of its field. -/
theorem exists_phrase_of_breaks {f : Field} (hf : f ∈ scan.rows) {leaf : String}
    (hleaf : leaf ∈ writtenLeaves (namesOf s (Definition.ofPage s.unions scan.sections)) f)
    (hbreaks : breaks p leaf ≠ 0) :
    ∃ phrase, f.phrase = some phrase ∧ leaf.toList <:+: phrase.toList := by
  obtain ⟨name, hname, rfl⟩ := List.mem_map.1 hleaf
  have hverbatim := eq_of_breaks_scalar hp hs h hbreaks
  rw [hverbatim] at hbreaks ⊢
  rw [Reference.type_of_scan h hf] at hname
  cases hphrase : f.phrase with
  | none =>
    rw [hphrase] at hname
    cases hname
  | some phrase =>
    rw [hphrase] at hname
    refine ⟨phrase, rfl, ?_⟩
    have hspells := TypeExpr.spells_ofChars s.options.aliases phrase.toList
    rcases TypeExpr.mem_leaves_of_spells hspells name hname with halias | hpart
    · refine absurd (hs _ ?_) hbreaks
      simp only [writtenTexts, List.mem_append]
      exact Or.inl (Or.inl (Or.inl halias))
    · exact hpart.2

end Page

/-- The types of several fields have no breaks exactly if none of their written scalars has. -/
theorem typeBreaks_eq_zero_iff {p : Char → Bool} {n : Names} {fields : List Field} :
    typeBreaks p n fields = 0 ↔ ∀ f ∈ fields, ∀ leaf ∈ writtenLeaves n f, breaks p leaf = 0 := by
  unfold typeBreaks
  rw [breaksAll_eq_zero_iff]
  constructor
  · intro h f hf leaf hleaf
    exact h leaf (List.mem_flatMap.2 ⟨f, hf, hleaf⟩)
  · intro h leaf hleaf
    obtain ⟨f, hf, hleaf⟩ := List.mem_flatMap.1 hleaf
    exact h f hf leaf hleaf

/-- The line feed breaks lines. -/
theorem picksBreaks_lineFeed : PicksBreaks (· == '\n') where
  lineFeed := rfl
  only c hc := by
    obtain rfl : c = '\n' := by simpa using hc
    decide

/-- **How many lines the definitions of a page have.** Where the settings bring no line breaks into
the code, that of a record has one line break for each of its lines, four without fields and else
five and four a field, and besides them those of its title and of its written scalars; that of an
operation, with seven lines or eleven and three a field, has those of its title twice. So there are
no more line breaks than lines exactly if neither the title nor a written scalar has one. A written
scalar that has one stands in the phrase of its field, as it is. -/
theorem breaks_of_scan {p : Char → Bool} (hp : PicksBreaks p) {s : Settings}
    (hs : ∀ t ∈ writtenTexts s, breaks p t = 0) {text : String} {scan : Scan}
    (h : Reference.scan s.options text = .ok scan) {ds : List Definition}
    (hds : ds = Definition.ofPage s.unions scan.sections) :
    (∀ r, .record r ∈ ds →
      breaks p (recordCode (namesOf s ds) s.bases r) =
        recordLength r.fields.length + breaks p r.title + typeBreaks p (namesOf s ds) r.fields ∧
      (breaks p (recordCode (namesOf s ds) s.bases r) = recordLength r.fields.length ↔
        breaks p r.title = 0 ∧
          ∀ f ∈ r.fields, ∀ leaf ∈ writtenLeaves (namesOf s ds) f, breaks p leaf = 0)) ∧
    (∀ o, .operation o ∈ ds →
      breaks p (operationCode (namesOf s ds) o) =
        operationLength o.fields.length + 2 * breaks p o.title
          + typeBreaks p (namesOf s ds) o.fields ∧
      (breaks p (operationCode (namesOf s ds) o) = operationLength o.fields.length ↔
        breaks p o.title = 0 ∧
          ∀ f ∈ o.fields, ∀ leaf ∈ writtenLeaves (namesOf s ds) f, breaks p leaf = 0)) ∧
    ∀ d ∈ ds, ∀ f ∈ d.fields, ∀ leaf ∈ writtenLeaves (namesOf s ds) f, breaks p leaf ≠ 0 →
      ∃ phrase, f.phrase = some phrase ∧ leaf.toList <:+: phrase.toList := by
  subst hds
  refine ⟨?_, ?_, ?_⟩
  · intro r hr
    have hbases : ∀ base ∈ s.bases.map Prod.snd, breaks p base = 0 := by
      intro base hbase
      apply hs
      rw [writtenTexts, List.mem_append]
      exact Or.inr hbase
    have hcode := breaks_recordCode hp (namesOf s (Definition.ofPage s.unions scan.sections))
      (fun f hf => (mem_rows_of_mem_ofPage hr hf).2) hbases
    refine ⟨hcode, ?_⟩
    rw [hcode, ← typeBreaks_eq_zero_iff]
    omega
  · intro o ho
    have hcode := breaks_operationCode hp (namesOf s (Definition.ofPage s.unions scan.sections))
      (fun f hf => (mem_rows_of_mem_ofPage ho hf).2)
    refine ⟨hcode, ?_⟩
    rw [hcode, ← typeBreaks_eq_zero_iff]
    omega
  · intro d hd f hf leaf hleaf hbreaks
    exact exists_phrase_of_breaks hp hs h (mem_rows_of_mem_ofPage hd hf).1 hleaf hbreaks

/-- A page with a row whose type phrase is two words with a line feed between them. -/
def newLinePage : String :=
  "<h4>User</h4>\n<tr>\n<td>id</td>\n<td>Foo&NewLine;Bar</td>\n<td>Yes</td>\n</tr>"

/-- The record of the page has nine lines and ten line feeds. -/
theorem breaks_of_scan_newLinePage :
    ∃ scan r, Reference.scan Settings.plain.options newLinePage = .ok scan ∧
      Definition.ofPage Settings.plain.unions scan.sections = [.record r] ∧
      recordLength r.fields.length = 9 ∧
      breaks (· == '\n') (recordCode (namesOf Settings.plain [.record r]) Settings.plain.bases r) =
        10 := by
  have hscan : Reference.scan Settings.plain.options newLinePage = .ok {
      closed := []
      place := .inSection
        { title := some "User"
          fields := [
            { name := some "id", phrase := some "Foo\nBar", type := some (.scalar "Foo\nBar")
              requirement := .required }] }
      skipped := 0 } := by decide +kernel
  have hds : Definition.ofPage Settings.plain.unions (Scan.sections {
      closed := []
      place := .inSection
        { title := some "User"
          fields := [
            { name := some "id", phrase := some "Foo\nBar", type := some (.scalar "Foo\nBar")
              requirement := .required }] }
      skipped := 0 }) = [.record
        { title := "User"
          fields := [
            { name := some "id", phrase := some "Foo\nBar", type := some (.scalar "Foo\nBar")
              requirement := .required }] }] := by decide +kernel
  have hs : ∀ t ∈ writtenTexts Settings.plain, breaks (· == '\n') t = 0 := by decide
  refine ⟨_, _, hscan, hds, rfl, ?_⟩
  rw [((breaks_of_scan picksBreaks_lineFeed hs hscan hds.symm).1 _ List.mem_cons_self).1]
  decide +kernel

end Bindings

end ApiBindings
