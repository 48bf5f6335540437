import ApiBindings.Proofs.Reference.Hearing
import ApiBindings.Proofs.Reference.Rows
import Mathlib.Data.List.ReduceOption
/-!
# A scan reads the outline

The one pass of a scan, with its places and its open row, collects what the outline of the page
says. The rows of a section and what stands between them are read as the outline reads them, and
the parts of a page follow one another. Main statement: the sections of a scan are those that the
outline of the page gives (`ofPage_of_scan`).
-/

namespace ApiBindings.Reference

/-! ## Rows and what stands between them -/

theorem rowCells_cons_of_rowOpen {m : Mark} (h : m.kind = .rowOpen) (ms : List Mark) :
    rowCells (m :: ms) = cellsHere ms :: rowCells ms := by
  simp [rowCells, Mark.is, h]

theorem rowCells_cons_of_ne {m : Mark} (h : m.kind ≠ .rowOpen) (ms : List Mark) :
    rowCells (m :: ms) = rowCells ms := by
  simp [rowCells, Mark.is, h]

theorem cellsHere_cons_of_endsRow {m : Mark} (h : m.endsRow = true) (ms : List Mark) :
    cellsHere (m :: ms) = [] := by
  simp [cellsHere, linesOf, h]

theorem cellsHere_cons_of_cell {m : Mark} (h : m.kind = .cell) (ms : List Mark) :
    cellsHere (m :: ms) = m.line :: cellsHere ms := by
  simp [cellsHere, linesOf, Mark.endsRow, Mark.is, h]

theorem cellsHere_cons_of_ne {m : Mark} (hrow : m.endsRow = false) (hcell : m.kind ≠ .cell)
    (ms : List Mark) : cellsHere (m :: ms) = cellsHere ms := by
  simp [cellsHere, linesOf, hrow, Mark.is, hcell]

theorem outsideRows_cons_of_rowOpen {m : Mark} (h : m.kind = .rowOpen) (ms : List Mark) :
    outsideRows (m :: ms) = outsideRows (behindRow ms) := by
  rw [outsideRows]
  simp [Mark.is, h]

theorem outsideRows_cons_of_ne {m : Mark} (h : m.kind ≠ .rowOpen) (ms : List Mark) :
    outsideRows (m :: ms) = m :: outsideRows ms := by
  rw [outsideRows]
  simp [Mark.is, h]

theorem behindRow_cons_of_rowClose {m : Mark} (h : m.kind = .rowClose) (ms : List Mark) :
    behindRow (m :: ms) = m :: ms := by
  simp [behindRow, Mark.is, h]

theorem behindRow_cons_of_ne {m : Mark} (h : m.kind ≠ .rowClose) (ms : List Mark) :
    behindRow (m :: ms) = behindRow ms := by
  simp [behindRow, Mark.is, h]

/-- The end of a row says nothing about the section. -/
theorem hearAll_cons_of_rowClose (o : Options) (sec : Section) {m : Mark}
    (h : m.kind = .rowClose) (ms : List Mark) : sec.hearAll o (m :: ms) = sec.hearAll o ms := by
  rw [hearAll_cons, Section.hear, h]
  rfl

theorem addRows_addRows (sec : Section) (rows rows' : List Field) :
    (sec.addRows rows).addRows rows' = sec.addRows (rows ++ rows') := by
  simp [Section.addRows]

/-- Without a row a mark is heard, unless it opens one. -/
theorem advance_inSection_of_ne (o : Options) (sec : Section) {m : Mark} (h : m.kind ≠ .rowOpen) :
    (Place.inSection sec).advance o m = (sec.hear o m).map .inSection := by
  obtain ⟨kind, line⟩ := m
  cases kind with
  | rowOpen => exact absurd rfl h
  | _ => rfl

/-- The place `p` holds what the marks `ms` say about the section `sec`: `row`, if there is one, is
open at their beginning. -/
def Place.Reads (o : Options) (sec : Section) (ms : List Mark) (p : Place) : Option Field → Prop
  | none => ∃ t rows, sec.hearAll o (outsideRows ms) = .ok t ∧
      (rowCells ms).mapM (Field.ofCells o) = .ok rows ∧ p.section? = some (t.addRows rows)
  | some row => ∃ t row' rows, sec.hearAll o (outsideRows (behindRow ms)) = .ok t ∧
      row.fillAll o (cellsHere ms) = .ok row' ∧
      (rowCells ms).mapM (Field.ofCells o) = .ok rows ∧
      p.section? = some (t.addRows (row' :: rows))

/-- The place of the section `sec` with the open row, if there is one. -/
def Place.of (sec : Section) : Option Field → Place
  | none => .inSection sec
  | some row => .inRow sec row

/-- One more mark in front, with no row open. -/
theorem Place.Reads.cons_none {o : Options} {sec : Section} {m : Mark} {ms : List Mark}
    {p : Place} (h : (Place.inSection sec).advanceAll o (m :: ms) = .ok p)
    (ih : ∀ sec row, (Place.of sec row).advanceAll o ms = .ok p → p.Reads o sec ms row) :
    p.Reads o sec (m :: ms) none := by
  obtain ⟨q, hq, h⟩ := bind_eq_ok_iff.1 h
  by_cases hm : m.kind = .rowOpen
  · have hadvance : (Place.inSection sec).advance o m = .ok (.inRow sec {}) := by
      obtain ⟨kind, line⟩ := m
      cases hm
      rfl
    cases hadvance.symm.trans hq
    obtain ⟨t, row, rows, ht, hrow, hrows, hp⟩ := ih sec (some {}) h
    rw [fillAll_new] at hrow
    refine ⟨t, row :: rows, ?_, ?_, hp⟩
    · rw [outsideRows_cons_of_rowOpen hm, ht]
    · rw [rowCells_cons_of_rowOpen hm]
      exact mapM_cons_eq_ok_iff.2 ⟨row, rows, hrow, hrows, rfl⟩
  · rw [advance_inSection_of_ne o sec hm] at hq
    obtain ⟨sec', hsec, rfl⟩ := map_eq_ok_iff.1 hq
    obtain ⟨t, rows, ht, hrows, hp⟩ := ih sec' none h
    refine ⟨t, rows, ?_, ?_, hp⟩
    · rw [outsideRows_cons_of_ne hm, hearAll_cons, hsec]
      exact ht
    · rw [rowCells_cons_of_ne hm, hrows]

/-- One more mark in front, with a row open. -/
theorem Place.Reads.cons_some {o : Options} {sec : Section} {row : Field} {m : Mark}
    {ms : List Mark} {p : Place} (h : (Place.inRow sec row).advanceAll o (m :: ms) = .ok p)
    (ih : ∀ sec row, (Place.of sec row).advanceAll o ms = .ok p → p.Reads o sec ms row) :
    p.Reads o sec (m :: ms) (some row) := by
  obtain ⟨q, hq, h⟩ := bind_eq_ok_iff.1 h
  obtain ⟨kind, line⟩ := m
  cases kind with
  | rowOpen =>
    -- the open row takes no more cells, and the new one is read as if it were the first
    cases hq
    obtain ⟨u, row', rows, hu, hrow, hrows, hp⟩ := ih (sec.addRows [row]) (some {}) h
    rw [hearAll_addRows] at hu
    obtain ⟨t, ht, rfl⟩ := map_eq_ok_iff.1 hu
    rw [fillAll_new] at hrow
    refine ⟨t, row, row' :: rows, ?_, ?_, ?_, ?_⟩
    · rw [behindRow_cons_of_ne (by simp), ht]
    · rw [cellsHere_cons_of_endsRow rfl]
      rfl
    · rw [rowCells_cons_of_rowOpen rfl]
      exact mapM_cons_eq_ok_iff.2 ⟨row', rows, hrow, hrows, rfl⟩
    · rw [hp, addRows_addRows, List.singleton_append]
  | rowClose =>
    cases hq
    obtain ⟨u, rows, hu, hrows, hp⟩ := ih (sec.addRows [row]) none h
    rw [hearAll_addRows] at hu
    obtain ⟨t, ht, rfl⟩ := map_eq_ok_iff.1 hu
    refine ⟨t, row, rows, ?_, ?_, ?_, ?_⟩
    · rw [behindRow_cons_of_rowClose rfl, outsideRows_cons_of_ne (by simp),
        hearAll_cons_of_rowClose o sec rfl, ht]
    · rw [cellsHere_cons_of_endsRow rfl]
      rfl
    · rw [rowCells_cons_of_ne (by simp), hrows]
    · rw [hp, addRows_addRows, List.singleton_append]
  | cell =>
    obtain ⟨filled, hfilled, rfl⟩ := map_eq_ok_iff.1 hq
    obtain ⟨t, row', rows, ht, hrow, hrows, hp⟩ := ih sec (some filled) h
    refine ⟨t, row', rows, ?_, ?_, ?_, hp⟩
    · rw [behindRow_cons_of_ne (by simp), ht]
    · rw [cellsHere_cons_of_cell rfl, fillAll_cons, hfilled]
      exact hrow
    · rw [rowCells_cons_of_ne (by simp), hrows]
  | _ =>
    -- inside of a row nothing else counts, here or in the outline
    cases hq
    obtain ⟨t, row', rows, ht, hrow, hrows, hp⟩ := ih sec (some row) h
    refine ⟨t, row', rows, ?_, ?_, ?_, hp⟩
    · rw [behindRow_cons_of_ne (by simp), ht]
    · rw [cellsHere_cons_of_ne rfl (by simp), hrow]
    · rw [rowCells_cons_of_ne (by simp), hrows]

/-- **Inside of a section the place comes to hold what the rows and the marks between them say.** -/
theorem reads_of_advanceAll {o : Options} {ms : List Mark} {p : Place} (sec : Section)
    (row : Option Field) (h : (Place.of sec row).advanceAll o ms = .ok p) :
    p.Reads o sec ms row := by
  -- the section and the open row stand for what has been read, so both are general
  induction ms generalizing sec row with
  | nil =>
    cases h
    cases row with
    | none =>
      refine ⟨sec, [], by rw [outsideRows]; rfl, rfl, ?_⟩
      simp [Place.of, Place.section?, Section.addRows]
    | some row =>
      refine ⟨sec, row, [], by rw [behindRow, List.dropWhile_nil, outsideRows]; rfl, rfl, rfl, ?_⟩
      simp [Place.of, Place.section?, Section.addRows]
  | cons m ms ih =>
    cases row with
    | none => exact Place.Reads.cons_none h ih
    | some row => exact Place.Reads.cons_some h ih

/-- A section holds what the outline reads from its marks. -/
theorem ofMarks_of_advanceAll {o : Options} {title : String} {ms : List Mark} {p : Place}
    (h : (Place.inSection { title := some title }).advanceAll o ms = .ok p) :
    ∃ sec, Section.ofMarks o title ms = .ok sec ∧ p.section? = some sec := by
  obtain ⟨t, rows, ht, hrows, hp⟩ := reads_of_advanceAll _ none h
  obtain ⟨htitle, hfields⟩ := hearAll_frame ht
  refine ⟨t.addRows rows, ?_, hp⟩
  rw [Section.ofMarks, noteLine, note_hearAll rfl ht, itemLines, cases_hearAll rfl ht, hrows]
  obtain ⟨title', note, fields, cases⟩ := t
  cases htitle
  cases hfields
  rfl

/-! ## Pages -/

/-- Behind its heading each part has no other heading. -/
theorem forall_mem_parts (ms : List Mark) :
    ∀ part ∈ parts ms, part.1.kind = .heading ∧ ∀ m ∈ part.2, m.is .heading = false := by
  induction ms with
  | nil => simp [parts]
  | cons m ms ih =>
    unfold parts
    split
    · rename_i hm
      intro part hpart
      rcases List.mem_cons.1 hpart with rfl | hpart
      · refine ⟨by simpa [Mark.is] using hm, fun m' hm' => ?_⟩
        simpa using List.mem_takeWhile_imp hm'
      · exact ih part hpart
    · exact ih

/-- From its first heading on a page is made of its parts. -/
theorem flatMap_parts (ms : List Mark) :
    (parts ms).flatMap (fun part => part.1 :: part.2) = ms.dropWhile (!·.is .heading) := by
  induction ms with
  | nil => rfl
  | cons m ms ih =>
    unfold parts
    by_cases hm : m.is .heading = true
    · rw [if_pos hm, List.flatMap_cons, ih, List.dropWhile_cons_of_neg (by simp [hm])]
      dsimp only
      rw [List.cons_append, List.takeWhile_append_dropWhile]
    · rw [if_neg hm, ih, List.dropWhile_cons_of_pos (by simp [hm])]

/-- Leaving a section keeps all sections. -/
@[simp] theorem sections_leave (s : Scan) : s.leave.sections = s.sections := by
  simp [Scan.leave, Scan.sections, Place.section?]

/-- Behind the end of its table a section is as it was there, and nothing is read. -/
theorem exists_pass_behind_body (o : Options) (s : Scan) {ms : List Mark}
    (hms : ∀ m ∈ ms, m.is .heading = false) :
    ∃ t, s.pass o (ms.dropWhile (!·.is .tableClose)) = .ok t ∧ t.sections = s.sections ∧
      t.skipped = s.skipped := by
  cases hd : ms.dropWhile (!·.is .tableClose) with
  | nil => exact ⟨s, rfl, rfl, rfl⟩
  | cons m rest =>
    have hclose : m.kind = .tableClose := by
      have hhead := List.head?_dropWhile_not (fun m : Mark => !m.is .tableClose) ms
      rw [hd] at hhead
      simpa [Mark.is] using hhead
    have hrest : ∀ m' ∈ rest, m'.is .heading = false := by
      intro m' hm'
      apply hms
      apply (List.dropWhile_suffix (fun m : Mark => !m.is .tableClose)).subset
      rw [hd]
      exact List.mem_cons_of_mem m hm'
    refine ⟨s.leave, ?_, sections_leave s, rfl⟩
    rw [pass_cons, passMark_of_tableClose o s hclose]
    exact pass_outside o s.sections s.skipped rest hrest

/-- Up to the end of its table no mark of a part begins or ends a section. -/
theorem isInner_of_mem_body {ms : List Mark} (hms : ∀ m ∈ ms, m.is .heading = false) :
    ∀ m ∈ body ms, m.isInner = true := by
  intro m hm
  have hclose : m.is .tableClose = false := by simpa using List.mem_takeWhile_imp hm
  have hno := hms m ((List.takeWhile_prefix _).subset hm)
  simp [Mark.isInner, hno, hclose]

/-- **A part of a page adds the section that the outline reads from it**, or is counted. -/
theorem ofPart_of_pass {o : Options} {s t : Scan} {part : Mark × List Mark}
    (hheading : part.1.kind = .heading) (hrest : ∀ m ∈ part.2, m.is .heading = false)
    (h : s.pass o (part.1 :: part.2) = .ok t) :
    ∃ read, Section.ofPart o part = .ok read ∧ t.sections = s.sections ++ read.toList ∧
      t.skipped = s.skipped + [read].count none := by
  obtain ⟨m, ms⟩ := part
  obtain ⟨u, hu, h⟩ := bind_eq_ok_iff.1 h
  rw [passMark_of_heading o s hheading] at hu
  obtain ⟨title, htitle, rfl⟩ := map_eq_ok_iff.1 hu
  unfold Section.ofPart
  rw [htitle]
  unfold Scan.heading at h
  by_cases hn : isNarrative title = true
  · rw [if_pos hn] at h
    cases (pass_outside o s.sections (s.skipped + 1) ms hrest).symm.trans h
    refine ⟨none, ?_, ?_, rfl⟩
    · show (if isNarrative title = true then _ else _) = _
      rw [if_pos hn]
      rfl
    · simp [Scan.sections, Place.section?]
  · -- up to the end of the table the place moves, and behind it nothing does
    rw [if_neg hn, ← List.takeWhile_append_dropWhile (p := (!·.is .tableClose)) (l := ms)] at h
    obtain ⟨v, hv, h⟩ := bind_eq_ok_iff.1 ((pass_append o _ _ _).symm.trans h)
    obtain ⟨p, hp, rfl⟩ := map_eq_ok_iff.1
      ((pass_eq_advanceAll o _ _ (isInner_of_mem_body hrest)).symm.trans hv)
    obtain ⟨sec, hsec, hsome⟩ := ofMarks_of_advanceAll hp
    obtain ⟨t', ht', hsections, hskipped⟩ := exists_pass_behind_body o _ hrest
    cases ht'.symm.trans h
    refine ⟨some sec, ?_, ?_, ?_⟩
    · show (if isNarrative title = true then _ else _) = _
      rw [if_neg hn, hsec]
      rfl
    · rw [hsections]
      show s.sections ++ p.section?.toList = _
      rw [hsome]
    · rw [hskipped]
      rfl

/-- Parts are read one after the other. -/
theorem ofPage_of_pass {o : Options} {ps : List (Mark × List Mark)} {s t : Scan}
    (hps : ∀ part ∈ ps, part.1.kind = .heading ∧ ∀ m ∈ part.2, m.is .heading = false)
    (h : s.pass o (ps.flatMap fun part => part.1 :: part.2) = .ok t) :
    ∃ reads, ps.mapM (Section.ofPart o) = .ok reads ∧
      t.sections = s.sections ++ reads.reduceOption ∧ t.skipped = s.skipped + reads.count none := by
  induction ps generalizing s with
  | nil =>
    cases h
    exact ⟨[], rfl, by simp [List.reduceOption], rfl⟩
  | cons part ps ih =>
    rw [List.flatMap_cons] at h
    obtain ⟨u, hu, h⟩ := bind_eq_ok_iff.1 ((pass_append o _ _ _).symm.trans h)
    obtain ⟨hheading, hrest⟩ := hps part List.mem_cons_self
    obtain ⟨read, hread, hsections, hskipped⟩ := ofPart_of_pass hheading hrest hu
    obtain ⟨reads, hreads, hsections', hskipped'⟩ :=
      ih (fun part' hpart' => hps part' (List.mem_cons_of_mem _ hpart')) h
    refine ⟨read :: reads, ?_, ?_, ?_⟩
    · exact mapM_cons_eq_ok_iff.2 ⟨read, reads, hread, hreads, rfl⟩
    · rw [hsections', hsections]
      cases read <;> simp [List.reduceOption_cons_of_none, List.reduceOption_cons_of_some]
    · rw [hskipped', hskipped, ← List.singleton_append (l := reads), List.count_append,
        Nat.add_assoc]

/-- **A scan that returns has read the outline.** Its sections are those that the headings of the
page open, in their order, each read from its own lines, and the headings that open none are
counted. -/
theorem ofPage_of_scan (o : Options) (text : String) (s : Scan) (h : scan o text = .ok s) :
    ∃ reads, Section.ofPage o (pageLines text) = .ok reads ∧ s.sections = reads.reduceOption ∧
      s.skipped = reads.count none := by
  rw [scan_eq_pass, ← List.takeWhile_append_dropWhile (p := (!·.is .heading))
    (l := marks o.headingTag (pageLines text))] at h
  obtain ⟨u, hu, h⟩ := bind_eq_ok_iff.1 ((pass_append o _ _ _).symm.trans h)
  have hbefore : ∀ m ∈ (marks o.headingTag (pageLines text)).takeWhile (!·.is .heading),
      m.is .heading = false := by
    intro m hm
    simpa using List.mem_takeWhile_imp hm
  -- before the first heading nothing has happened
  cases (pass_outside o [] 0 _ hbefore).symm.trans hu
  rw [← flatMap_parts] at h
  obtain ⟨reads, hreads, hsections, hskipped⟩ := ofPage_of_pass (forall_mem_parts _) h
  refine ⟨reads, hreads, ?_, ?_⟩
  · simpa [Scan.sections, Place.section?] using hsections
  · simpa using hskipped

/-- A page with an unclosed row, a paragraph in it, a row without cells, a list, and a narrative
heading with a row that does not count. -/
def mixedPage : String :=
  "<h4>Kind</h4>\n<tr>\n<td>id</td>\n<td>True</td>\n<td>Yes</td>\n<p>x</p>\n<tr>\n</tr>\n<ul>\n"
    ++ "<li>A</li>\n<h4>a b</h4>\n<tr>"

/-- The mixed page is scanned, so it is read. -/
theorem ofPage_of_scan_mixedPage :
    ∃ s, scan {} mixedPage = .ok s ∧ ∃ reads, Section.ofPage {} (pageLines mixedPage) = .ok reads ∧
      s.sections = reads.reduceOption ∧ s.skipped = reads.count none := by
  have h : scan {} mixedPage = .ok {
      closed := [{
        title := some "Kind"
        fields := [
          { name := some "id", phrase := some "True", type := some (.scalar "Bool")
            requirement := .required },
          {}]
        cases := some ["A"] }]
      place := .outside
      skipped := 1 } := by decide +kernel
  exact ⟨_, h, ofPage_of_scan {} mixedPage _ h⟩

end ApiBindings.Reference
