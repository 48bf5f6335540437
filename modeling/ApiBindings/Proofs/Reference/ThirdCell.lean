import ApiBindings.Proofs.Reference.Cursors
import ApiBindings.Proofs.Reference.Reading
/-!
# The third cell of a row

A third cell can say that a field is required or that it may be left out. It does not close the
place of the description, so the cells behind it are heard too as long as they are such signals.
Main statement: in every row of a page the third cell decides exactly if the last of the signals
right behind it does not say the opposite (`isOptional_iff_of_thirdCell`).
-/

namespace ApiBindings.Reference

/-! ## The rows of a page -/

/-- The heading opens a section: its text can be read and is not narrative. -/
def Mark.opensSection (heading : Mark) : Bool :=
  match Markup.bareText heading.line with
  | .ok title => !isNarrative title
  | .error _ => false

/-- The cells of each row of some parts of a page. -/
def rowsOf (ps : List (Mark × List Mark)) : List (List String) :=
  (ps.filter fun part => part.1.opensSection).flatMap fun part => rowCells (body part.2)

/-- The cells of each row that stands in a section of the page. -/
def pageRows (o : Options) (text : String) : List (List String) :=
  rowsOf (parts (marks o.headingTag (pageLines text)))

/-- The fields of a section are read from its rows. -/
theorem forall₂_ofMarks {o : Options} {title : String} {ms : List Mark} {sec : Section}
    (h : Section.ofMarks o title ms = .ok sec) :
    List.Forall₂ (fun cells f => Field.ofCells o cells = .ok f) (rowCells ms) sec.fields := by
  obtain ⟨note, -, h⟩ := bind_eq_ok_iff.1 h
  obtain ⟨cases, -, h⟩ := bind_eq_ok_iff.1 h
  obtain ⟨fields, hfields, h⟩ := bind_eq_ok_iff.1 h
  cases h
  exact forall₂_of_mapM hfields

/-- A part that is read is a section with the rows of the part, or its heading is narrative. -/
theorem ofPart_cases {o : Options} {part : Mark × List Mark} {read : Option Section}
    (h : Section.ofPart o part = .ok read) :
    (part.1.opensSection = false ∧ read = none) ∨
      (part.1.opensSection = true ∧ ∃ sec, read = some sec ∧
        List.Forall₂ (fun cells f => Field.ofCells o cells = .ok f) (rowCells (body part.2))
          sec.fields) := by
  obtain ⟨title, htitle, h⟩ := bind_eq_ok_iff.1 h
  unfold Mark.opensSection
  rw [htitle]
  dsimp only at h ⊢
  by_cases hn : isNarrative title = true
  · rw [if_pos hn] at h
    cases h
    exact Or.inl ⟨by rw [hn]; rfl, rfl⟩
  · rw [if_neg hn] at h
    obtain ⟨sec, hsec, h⟩ := bind_eq_ok_iff.1 h
    cases h
    exact Or.inr ⟨by simpa using hn, sec, rfl, forall₂_ofMarks hsec⟩

/-- The fields of the sections of several parts are read from the rows of these parts. -/
theorem forall₂_rowsOf {o : Options} {ps : List (Mark × List Mark)} {reads : List (Option Section)}
    (h : ps.mapM (Section.ofPart o) = .ok reads) :
    List.Forall₂ (fun cells f => Field.ofCells o cells = .ok f) (rowsOf ps)
      (reads.reduceOption.flatMap (·.fields)) := by
  induction ps generalizing reads with
  | nil =>
    cases h
    exact List.Forall₂.nil
  | cons part ps ih =>
    obtain ⟨read, reads', hread, hreads, rfl⟩ := mapM_cons_eq_ok_iff.1 h
    unfold rowsOf
    rw [List.filter_cons]
    rcases ofPart_cases hread with ⟨hno, rfl⟩ | ⟨hopens, sec, rfl, hrows⟩
    · rw [if_neg (by simp [hno]), List.reduceOption_cons_of_none]
      exact ih hreads
    · rw [if_pos hopens, List.reduceOption_cons_of_some, List.flatMap_cons, List.flatMap_cons]
      exact List.rel_append hrows (ih hreads)

/-- Before its first heading a page says nothing: a scan passes over the parts of the page. -/
theorem pass_eq_pass_parts (o : Options) (ms : List Mark) :
    Scan.start.pass o ms =
      Scan.start.pass o ((parts ms).flatMap fun part => part.1 :: part.2) := by
  have hbefore : ∀ m ∈ ms.takeWhile (!·.is .heading), m.is .heading = false := by
    intro m hm
    simpa using List.mem_takeWhile_imp hm
  have hstart : Scan.start.pass o (ms.takeWhile (!·.is .heading)) = .ok Scan.start :=
    pass_outside o [] 0 _ hbefore
  calc Scan.start.pass o ms
      = Scan.start.pass o (ms.takeWhile (!·.is .heading) ++ ms.dropWhile (!·.is .heading)) := by
        rw [List.takeWhile_append_dropWhile]
    _ = Scan.start.pass o (ms.dropWhile (!·.is .heading)) := by
        rw [pass_append, hstart]
        rfl
    _ = _ := by rw [flatMap_parts]

/-- **The fields of a scan are read from the rows of the page**, each from its own cells. -/
theorem forall₂_pageRows {o : Options} {text : String} {s : Scan} (h : scan o text = .ok s) :
    List.Forall₂ (fun cells f => Field.ofCells o cells = .ok f) (pageRows o text) s.rows := by
  rw [scan_eq_pass, pass_eq_pass_parts] at h
  obtain ⟨reads, hreads, hsections, -⟩ := ofPage_of_pass (forall_mem_parts _) h
  have hrows : s.rows = reads.reduceOption.flatMap (·.fields) := by
    rw [Scan.rows, hsections]
    rfl
  rw [hrows]
  exact forall₂_rowsOf hreads

/-- A field of a scan is read from the cells of a row of the page. -/
theorem exists_cells_of_mem_rows {o : Options} {text : String} {s : Scan}
    (h : scan o text = .ok s) {f : Field} (hf : f ∈ s.rows) :
    ∃ cells ∈ pageRows o text, Field.ofCells o cells = .ok f := by
  have hrows := forall₂_pageRows h
  obtain ⟨i, hi, rfl⟩ := List.mem_iff_getElem.1 hf
  have hi' : i < (pageRows o text).length := hrows.length_eq ▸ hi
  exact ⟨(pageRows o text)[i], List.getElem_mem hi', hrows.get hi' hi⟩

/-- The type of each field of a page is the one that its phrase names. -/
theorem type_of_scan {o : Options} {text : String} {s : Scan} (h : scan o text = .ok s) {f : Field}
    (hf : f ∈ s.rows) : f.type = f.phrase.map (TypeExpr.ofPhrase o.aliases) := by
  obtain ⟨cells, -, hcells⟩ := exists_cells_of_mem_rows h hf
  exact type_of_ofCells hcells

/-! ## Signals -/

/-- The last of the signals that some cells begin with. -/
def lastSignal (cells : List String) : Option String := (cells.takeWhile isSignal).getLast?

/-- A last signal is a signal. -/
theorem isSignal_of_lastSignal {cells : List String} {cell : String}
    (h : lastSignal cells = some cell) : isSignal cell = true :=
  List.mem_takeWhile_imp (List.mem_of_getLast? h)

/-- Cells that begin with a signal speak by the last signal behind it, or else by it. -/
theorem ofCells_cons_of_signal {third : String} (h : isSignal third = true) (rest : List String) :
    Requirement.ofCells (third :: rest) =
      Requirement.ofSignal ((lastSignal rest).getD third) := by
  unfold Requirement.ofCells lastSignal
  rw [List.takeWhile_cons_of_pos h, List.getLast?_cons]
  rfl

/-- A signal says which fields may be left out. -/
theorem isOptional_of_requirement {f : Field} {cell : String}
    (h : f.requirement = Requirement.ofSignal cell) : f.isOptional = !(cell == requiredCell) := by
  unfold Requirement.ofSignal at h
  unfold Field.isOptional
  by_cases hr : cell = requiredCell
  · rw [if_pos hr] at h
    simp [h, hr]
  · rw [if_neg hr] at h
    simp [h, hr]

/-- Where the third cell of a row is a signal, the last signal in its place decides. -/
theorem isOptional_ofCells {o : Options} {name phrase third : String} {rest : List String}
    {f : Field} (hsignal : isSignal third = true)
    (h : Field.ofCells o (name :: phrase :: third :: rest) = .ok f) :
    f.isOptional = !((lastSignal rest).getD third == requiredCell) := by
  obtain ⟨-, -, -, -, hrequirement⟩ := of_ofCells h
  apply isOptional_of_requirement
  rw [hrequirement]
  exact ofCells_cons_of_signal hsignal rest

/-- **When the third cell decides.** In every row of a page that is scanned, a third cell that
requires the field makes it required exactly if the last of the signals right behind it does not
let it be left out, and one that lets it be left out makes it optional exactly if the last of them
does not require it; whatever follows the first cell that is no signal does not count. -/
theorem isOptional_iff_of_thirdCell (o : Options) (text : String) (s : Scan)
    (h : scan o text = .ok s) :
    List.Forall₂ (fun cells f => ∀ name phrase third rest, cells = name :: phrase :: third :: rest →
      (third = requiredCell → (f.isOptional = false ↔ lastSignal rest ≠ some optionalCell)) ∧
      (third = optionalCell → (f.isOptional = true ↔ lastSignal rest ≠ some requiredCell)))
      (pageRows o text) s.rows := by
  refine List.Forall₂.imp ?_ (forall₂_pageRows h)
  rintro cells f hf name phrase third rest rfl
  have hne : optionalCell ≠ requiredCell := by decide
  constructor
  · rintro rfl
    rw [isOptional_ofCells (by decide) hf]
    cases hlast : lastSignal rest with
    | none => simp
    | some cell =>
      have hcell := isSignal_of_lastSignal hlast
      by_cases hr : cell = requiredCell
      · simp [hr, hne.symm]
      · have ho : cell = optionalCell := by simpa [isSignal, hr] using hcell
        simp [ho, hne]
  · rintro rfl
    rw [isOptional_ofCells (by decide) hf]
    cases hlast : lastSignal rest with
    | none => simp [hne]
    | some cell => simp

/-- A page with two rows that a third cell requires; the second is described by a cell that is a
signal itself. -/
def dicePage : String :=
  "<h4>dice</h4>\n<tr>\n<td>id</td>\n<td>Int</td>\n<td>Yes</td>\n<td>Value</td>\n<tr>\n"
    ++ "<td>to</td>\n<td>Int</td>\n<td>Yes</td>\n<td>Optional</td>"

/-- Of the two fields that their third cells require one is required. -/
theorem isOptional_iff_dicePage :
    ∃ s, scan {} dicePage = .ok s ∧
      pageRows {} dicePage =
        [["<td>id</td>", "<td>Int</td>", requiredCell, "<td>Value</td>"],
          ["<td>to</td>", "<td>Int</td>", requiredCell, optionalCell]] ∧
      ∃ f g, s.rows = [f, g] ∧ f.isOptional = false ∧ g.isOptional = true := by
  have hmarks : marks "h4" (pageLines dicePage) = [
      ⟨.heading, "<h4>dice</h4>"⟩, ⟨.rowOpen, "<tr>"⟩, ⟨.cell, "<td>id</td>"⟩,
      ⟨.cell, "<td>Int</td>"⟩, ⟨.cell, requiredCell⟩, ⟨.cell, "<td>Value</td>"⟩,
      ⟨.rowOpen, "<tr>"⟩, ⟨.cell, "<td>to</td>"⟩, ⟨.cell, "<td>Int</td>"⟩,
      ⟨.cell, requiredCell⟩, ⟨.cell, optionalCell⟩] := by decide +kernel
  have hscan : scan {} dicePage = .ok {
      closed := []
      place := .inRow
        { title := some "dice"
          fields := [
            { name := some "id", phrase := some "Int", type := some (.scalar "Int")
              description := some "Value", requirement := .required }] }
        { name := some "to", phrase := some "Int", type := some (.scalar "Int")
          requirement := .optional }
      skipped := 0 } := by
    rw [scan_eq_pass, hmarks]
    decide +kernel
  have hrows : pageRows {} dicePage =
      [["<td>id</td>", "<td>Int</td>", requiredCell, "<td>Value</td>"],
        ["<td>to</td>", "<td>Int</td>", requiredCell, optionalCell]] := by
    rw [pageRows, hmarks]
    decide +kernel
  have hdecides := isOptional_iff_of_thirdCell {} dicePage _ hscan
  rw [hrows] at hdecides
  refine ⟨_, hscan, hrows, _, _, rfl, ?_, ?_⟩
  · cases hdecides with
    | cons hf _ => exact ((hf _ _ _ _ rfl).1 rfl).2 (by decide)
  · cases hdecides with
    | cons _ htail =>
      cases htail with
      | cons hg _ =>
        have hnot := mt ((hg _ _ _ _ rfl).1 rfl).1 (by decide)
        simpa using hnot

end ApiBindings.Reference
