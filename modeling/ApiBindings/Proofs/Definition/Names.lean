import ApiBindings.Definition.OfSection
import ApiBindings.Proofs.Naming.Identifier
import ApiBindings.Proofs.Reference.ThirdCell
/-!
# Names of definitions

A definition is called by the text of a heading. A heading with a dot or a space opens no section,
a section without cases defines something only if its title begins with a cased letter, and there is
no other test of a title. Main statement: what these tests say about the names of the definitions of
a page, and exactly what they leave open for the code to be able to use the names
(`isWellNamed_iff_of_scan`).
-/

namespace ApiBindings

open Text (isUpper isLower isIdentifierStart isIdentifierContinue iotaBelow)
open Reference (LineKind Mark Options Scan Section isNarrative marks pageLines parts scan)
open Naming (isIdentifier isKeyword)

/-! ## Fields of definitions -/

/-- The fields of a definition of a page are complete, and are fields of the page. -/
theorem mem_rows_of_mem_ofPage {unions : List SyntheticUnion} {scan : Scan} {d : Definition}
    (hd : d ∈ Definition.ofPage unions scan.sections) {f : Reference.Field} (hf : f ∈ d.fields) :
    f ∈ scan.rows ∧ f.isComplete = true := by
  rcases List.mem_append.1 hd with hd | hd
  · obtain ⟨u, -, rfl⟩ := List.mem_map.1 hd
    cases hf
  · obtain ⟨sec, hsec, hof⟩ := List.mem_filterMap.1 hd
    obtain ⟨hmem, hcomplete⟩ := isComplete_of_mem_fields hof hf
    exact ⟨List.mem_flatMap.2 ⟨sec, hsec, hmem⟩, hcomplete⟩

/-! ## Titles of sections -/

namespace Reference

/-- The text of a heading of the page that is not narrative. -/
def IsTitle (o : Options) (text title : String) : Prop :=
  ∃ line ∈ pageLines text, LineKind.ofLine? o.headingTag line = some .heading ∧
    Markup.bareText line = .ok title ∧ isNarrative title = false

/-- The heading of a part stands on the page. -/
theorem mem_of_mem_parts {ms : List Mark} {part : Mark × List Mark} (h : part ∈ parts ms) :
    part.1 ∈ ms := by
  apply (List.dropWhile_suffix (!·.is .heading)).subset
  rw [← flatMap_parts]
  exact List.mem_flatMap.2 ⟨part, h, List.mem_cons_self⟩

/-- The labels of a list are identifiers. -/
theorem isIdentifier_of_labelsOf {items labels : List String} (h : labelsOf items = .ok labels) :
    ∀ label ∈ labels, isIdentifier label = true := by
  obtain ⟨texts, -, rfl⟩ := map_eq_ok_iff.1 h
  intro label hlabel
  exact (List.mem_filter.1 hlabel).2

/-- A section that is read from marks has their title, and its cases are identifiers. -/
theorem cases_of_ofMarks {o : Options} {title : String} {ms : List Mark} {sec : Section}
    (h : Section.ofMarks o title ms = .ok sec) :
    sec.title = some title ∧
      ∀ cases, sec.cases = some cases → ∀ case ∈ cases, isIdentifier case = true := by
  obtain ⟨note, -, h⟩ := bind_eq_ok_iff.1 h
  obtain ⟨labels, hlabels, h⟩ := bind_eq_ok_iff.1 h
  obtain ⟨fields, -, h⟩ := bind_eq_ok_iff.1 h
  cases h
  refine ⟨rfl, ?_⟩
  rintro cases rfl
  cases hitems : itemLines ms with
  | none =>
    rw [hitems] at hlabels
    cases hlabels
  | some items =>
    rw [hitems, mapM_some_eq_map] at hlabels
    obtain ⟨read, hread, hsome⟩ := map_eq_ok_iff.1 hlabels
    cases hsome
    exact isIdentifier_of_labelsOf hread

/-- A section of a page is called by one of its headings, and its cases are identifiers. -/
theorem title_of_scan {o : Options} {text : String} {s : Scan} (h : scan o text = .ok s)
    {sec : Section} (hsec : sec ∈ s.sections) :
    ∃ title, sec.title = some title ∧ IsTitle o text title ∧
      ∀ cases, sec.cases = some cases → ∀ case ∈ cases, isIdentifier case = true := by
  rw [scan_eq_pass, pass_eq_pass_parts] at h
  obtain ⟨reads, hreads, hsections, -⟩ := ofPage_of_pass (forall_mem_parts _) h
  have hread : some sec ∈ reads := by
    rw [hsections] at hsec
    apply List.reduceOption_mem_iff.1
    simpa [Scan.start, Scan.sections, Place.section?] using hsec
  obtain ⟨part, hpart, hof⟩ := exists_of_mem_mapM hreads hread
  obtain ⟨title, htitle, hof⟩ := bind_eq_ok_iff.1 hof
  -- the heading stands on a line of the page, and is not narrative since it has a section
  obtain ⟨line, hline, hmark⟩ := List.mem_filterMap.1 (mem_of_mem_parts hpart)
  obtain ⟨kind, hkind, hpair⟩ := Option.map_eq_some_iff.1 hmark
  have hheading := (forall_mem_parts _ part hpart).1
  rw [← hpair] at hheading htitle
  obtain rfl : kind = .heading := hheading
  cases hnarrative : isNarrative title with
  | true =>
    rw [if_pos hnarrative] at hof
    cases hof
  | false =>
    rw [if_neg (by simp [hnarrative])] at hof
    obtain ⟨sec', hsec', hsome⟩ := bind_eq_ok_iff.1 hof
    cases hsome
    obtain ⟨hname, hcases⟩ := cases_of_ofMarks hsec'
    exact ⟨title, hname, ⟨line, hline, hkind, htitle, hnarrative⟩, hcases⟩

end Reference

/-! ## Names of definitions -/

namespace Definition

/-- What a definition is called. -/
def name : Definition → String
  | .record r => r.title
  | .union u => u.name
  | .operation o => o.title

/-- The name can stand where the code needs a name: it is an identifier and, where no underscore
would be put behind it, no keyword. -/
def IsWellNamed : Definition → Prop
  | .operation o => isIdentifier o.title = true
  | d => isIdentifier d.name = true ∧ isKeyword d.name = false

/-- The keywords that begin with a capital. -/
def capitalKeywords : List String := ["False", "None", "True"]

/-- The name begins as the kind of the definition asks: a record with a capital, an operation with a
small letter. A union has cases instead, and they are identifiers. -/
def FitsKind : Definition → Prop
  | .record r => r.title.toList.head?.any isUpper = true
  | .union u => u.cases ≠ [] ∧ ∀ case ∈ u.cases, isIdentifier case = true
  | .operation o => o.title.toList.head?.any isLower = true

/-- What is left to ask of a name when the kind has been looked at. A small letter that begins no
identifier is the iota below alone; of a union nothing has been looked at. -/
def HasUsableTitle : Definition → Prop
  | .record r => r.title.toList.all isIdentifierContinue = true ∧ r.title ∉ capitalKeywords
  | .union u => isIdentifier u.name = true ∧ isKeyword u.name = false
  | .operation o =>
    o.title.toList.all isIdentifierContinue = true ∧ o.title.toList.head? ≠ some iotaBelow

instance (d : Definition) : Decidable d.HasUsableTitle :=
  match d with
  | .record r => inferInstanceAs (Decidable
      (r.title.toList.all isIdentifierContinue = true ∧ r.title ∉ capitalKeywords))
  | .union u => inferInstanceAs (Decidable (isIdentifier u.name = true ∧ isKeyword u.name = false))
  | .operation o => inferInstanceAs (Decidable
      (o.title.toList.all isIdentifierContinue = true ∧ o.title.toList.head? ≠ some iotaBelow))

/-- A keyword that begins with a capital is one of three. -/
theorem mem_capitalKeywords {name : String} {first : Char} {rest : List Char}
    (hname : name.toList = first :: rest) (hupper : isUpper first = true)
    (hkeyword : isKeyword name = true) : name ∈ capitalKeywords := by
  have hcapital : ∀ k ∈ Naming.keywords, k.toList.head?.any isUpper = true →
      k ∈ capitalKeywords := by decide +kernel
  apply hcapital name (by simpa [isKeyword] using hkeyword)
  simpa [hname] using hupper

/-- A title that begins with a capital names a record well exactly if it holds nothing but letters
of identifiers and is none of the three keywords. -/
theorem isWellNamed_record_iff {r : Record} {first : Char} {rest : List Char}
    (htitle : r.title.toList = first :: rest) (hupper : isUpper first = true) :
    (Definition.record r).IsWellNamed ↔ (Definition.record r).HasUsableTitle := by
  show isIdentifier r.title = true ∧ isKeyword r.title = false ↔ _
  constructor
  · rintro ⟨hidentifier, hkeyword⟩
    refine ⟨List.all_eq_true.2 (Naming.forall_continue_of_isIdentifier hidentifier), ?_⟩
    intro hmem
    have hreserved : ∀ k ∈ capitalKeywords, isKeyword k = true := by decide
    rw [hreserved _ hmem] at hkeyword
    exact absurd hkeyword (by decide)
  · rintro ⟨hcontinue, hkeyword⟩
    rw [htitle, List.all_eq_true, List.forall_mem_cons] at hcontinue
    refine ⟨?_, ?_⟩
    · have hstart := Text.isIdentifierStart_of_isUpper hupper hcontinue.1
      exact Naming.isIdentifier_iff.2 ⟨first, rest, htitle, hstart, hcontinue.2⟩
    · rw [← Bool.not_eq_true]
      exact fun h => hkeyword (mem_capitalKeywords htitle hupper h)

/-- A title that begins with a small letter names an operation well exactly if it holds nothing but
letters of identifiers and does not begin with the iota below, which is a mark. -/
theorem isWellNamed_operation_iff {o : Operation} {first : Char} {rest : List Char}
    (htitle : o.title.toList = first :: rest) (hlower : isLower first = true) :
    (Definition.operation o).IsWellNamed ↔ (Definition.operation o).HasUsableTitle := by
  show isIdentifier o.title = true ↔ _
  constructor
  · intro hidentifier
    refine ⟨List.all_eq_true.2 (Naming.forall_continue_of_isIdentifier hidentifier), ?_⟩
    intro hiota
    obtain ⟨c, cs, hlist, hc, -⟩ := Naming.isIdentifier_iff.1 hidentifier
    rw [hlist, List.head?_cons, Option.some.injEq] at hiota
    have hmark : isIdentifierStart iotaBelow = false := by decide +kernel
    rw [hiota, hmark] at hc
    exact absurd hc (by decide)
  · rintro ⟨hcontinue, hiota⟩
    rw [htitle, List.all_eq_true, List.forall_mem_cons] at hcontinue
    have hne : first ≠ iotaBelow := by simpa [htitle] using hiota
    have hstart := Text.isIdentifierStart_of_isLower hlower hcontinue.1 hne
    exact Naming.isIdentifier_iff.2 ⟨first, rest, htitle, hstart, hcontinue.2⟩

end Definition

/-- **The names of the definitions of a page.** Each definition that the sections of a scanned page
give is called by a heading that is not narrative, and not by the empty text; a record begins with a
capital, an operation with a small letter, and a union has cases. The code can use the name of a
record exactly if it holds nothing but letters of identifiers and is not one of three keywords, the
name of an operation exactly if it holds nothing but such letters and does not begin with the iota
below, and the name of a union exactly if it is an identifier and no keyword, neither of which has
been looked at. -/
theorem isWellNamed_iff_of_scan {o : Options} {text : String} {s : Scan} (h : scan o text = .ok s) :
    ∀ d ∈ s.sections.filterMap Definition.ofSection?,
      Reference.IsTitle o text d.name ∧ d.name ≠ "" ∧ d.FitsKind ∧
        (d.IsWellNamed ↔ d.HasUsableTitle) := by
  intro d hd
  obtain ⟨sec, hsec, hof⟩ := List.mem_filterMap.1 hd
  obtain ⟨title, htitle, hpage, hcases⟩ := Reference.title_of_scan h hsec
  obtain ⟨title', first, rest, htitle', hlist, hkind⟩ := Definition.ofSection?_cases hof
  obtain rfl : title = title' := Option.some.inj (htitle.symm.trans htitle')
  have hne : title ≠ "" := by
    rintro rfl
    exact absurd hlist (by simp)
  rcases hkind with ⟨case, cases, hsome, rfl⟩ | ⟨hupper, rfl⟩ | ⟨hlower, rfl⟩
  · exact ⟨hpage, hne, ⟨by simp, hcases _ hsome⟩, Iff.rfl⟩
  · have hfits : title.toList.head?.any isUpper = true := by simpa [hlist] using hupper
    exact ⟨hpage, hne, hfits, Definition.isWellNamed_record_iff hlist hupper⟩
  · have hfits : title.toList.head?.any isLower = true := by simpa [hlist] using hlower
    exact ⟨hpage, hne, hfits, Definition.isWellNamed_operation_iff hlist hlower⟩

/-- A page with a record, a record whose title has a hyphen, an operation, and a union whose title
begins with a digit. -/
def oddTitles : String :=
  "<h4>Chat</h4>\n<h4>Foo-Bar</h4>\n<h4>sendDice</h4>\n<h4>2fa</h4>\n<ul>\n<li>A</li>\n<li>B</li>"

/-- Two of the definitions of the page are well named. -/
theorem isWellNamed_iff_of_scan_oddTitles :
    ∃ s, scan {} oddTitles = .ok s ∧
      s.sections.filterMap Definition.ofSection? = [
        .record { title := "Chat" }, .record { title := "Foo-Bar" },
        .operation { title := "sendDice" }, .union { name := "2fa", cases := ["A", "B"] }] ∧
      (Definition.record { title := "Chat" }).IsWellNamed ∧
      ¬ (Definition.record { title := "Foo-Bar" }).IsWellNamed ∧
      (Definition.operation { title := "sendDice" }).IsWellNamed ∧
      ¬ (Definition.union { name := "2fa", cases := ["A", "B"] }).IsWellNamed := by
  have h : scan {} oddTitles = .ok {
      closed := [
        { title := some "Chat" }, { title := some "Foo-Bar" }, { title := some "sendDice" }]
      place := .inSection { title := some "2fa", cases := some ["A", "B"] }
      skipped := 0 } := by decide +kernel
  have hall := isWellNamed_iff_of_scan h
  have hdefinitions : (Scan.sections ⟨[
        { title := some "Chat" }, { title := some "Foo-Bar" }, { title := some "sendDice" }],
      .inSection { title := some "2fa", cases := some ["A", "B"] }, 0⟩).filterMap
        Definition.ofSection? = [
        .record { title := "Chat" }, .record { title := "Foo-Bar" },
        .operation { title := "sendDice" }, .union { name := "2fa", cases := ["A", "B"] }] := by
    decide +kernel
  rw [hdefinitions] at hall
  refine ⟨_, h, hdefinitions, ?_, ?_, ?_, ?_⟩
  · exact (hall _ (by simp)).2.2.2.2 (by decide +kernel)
  · exact mt (hall _ (by simp)).2.2.2.1 (by decide +kernel)
  · exact (hall _ (by simp)).2.2.2.2 (by decide +kernel)
  · exact mt (hall _ (by simp)).2.2.2.1 (by decide +kernel)

end ApiBindings
