import ApiBindings.Proofs.Reference.ThirdCell
/-!
# The lines that are read

Most lines of a page only open or close something. The text of a line is read where it becomes a
title, a note, a label or a cell; only notes and descriptions are read with their links, and only
the phrase of a type is read further. Main statements: what is read inside of a section
(`madeOf_advanceAll`), and that a scan returns exactly if all of these lines can be read
(`madeOf_scan`).
-/

namespace ApiBindings.Reference

/-! ## Readings -/

/-- A line whose text is read, without its links or with them, or without them and then as the
phrase of a type. -/
inductive Reading where
  | bare (line : String)
  | linked (line : String)
  | phrase (line : String)
  deriving DecidableEq, Repr

/-- What a reading gives, if it gives anything. -/
def Reading.outcome (o : Options) : Reading → Except Error String
  | .bare line => Markup.bareText line
  | .linked line => Markup.linkedText o.base line
  | .phrase line => do
    let phrase ← Markup.bareText line
    (TypeExpr.read o.depth o.aliases phrase).map fun _ => phrase

theorem outcome_phrase (o : Options) (line : String) :
    Reading.outcome o (.phrase line) = (Markup.bareText line >>= fun phrase =>
      (TypeExpr.read o.depth o.aliases phrase).map fun _ => phrase) := rfl

/-- What is read of a row: its name, its type and the cell that describes it. -/
def cellReadings (cells : List String) : List Reading :=
  cells[0]?.toList.map .bare
    ++ (cells[1]?.toList.map .phrase ++ (descriptionCell (cells.drop 2)).toList.map .linked)

/-- What is read of marks outside of the rows: the first paragraph, unless there is a note, and the
items behind the first line that opens a list, or all of them if there is one. -/
def heardReadings (hasNote hasList : Bool) (ms : List Mark) : List Reading :=
  (if hasNote then [] else (linesOf .paragraph ms).head?.toList.map .linked)
    ++ (linesOf .listItem (if hasList then ms else ms.dropWhile (!·.is .listOpen))).map .bare

/-- What is read of a section: outside of its rows, and of each row. -/
def sectionReadings (ms : List Mark) : List Reading :=
  heardReadings false false (outsideRows ms) ++ (rowCells ms).flatMap cellReadings

/-- What is read of a part of a page: its heading, and the section that it opens if it does. -/
def partReadings (part : Mark × List Mark) : List Reading :=
  .bare part.1.line :: if part.1.opensSection then sectionReadings (body part.2) else []

/-- What is read of a page. -/
def pageReadings (o : Options) (text : String) : List Reading :=
  (parts (marks o.headingTag (pageLines text))).flatMap partReadings

/-! ## Rows -/

/-- The cell of a type is read in one with the type. -/
theorem bind_phrase (o : Options) (cell? : Option String) {α : Type}
    (next : Option String → Option TypeExpr → Except Error α) :
    (cell?.mapM Markup.bareText >>= fun phrase =>
        phrase.mapM (TypeExpr.read o.depth o.aliases) >>= next phrase) =
      (cell?.mapM fun cell => Reading.outcome o (.phrase cell)) >>= fun phrase =>
        next phrase (phrase.map (TypeExpr.ofPhrase o.aliases)) := by
  cases cell? with
  | none => rfl
  | some cell =>
    rw [mapM_some_eq_map, mapM_some_eq_map, outcome_phrase]
    cases Markup.bareText cell with
    | error e => rfl
    | ok phrase =>
      show ((some phrase).mapM (TypeExpr.read o.depth o.aliases) >>= next (some phrase)) =
        (((TypeExpr.read o.depth o.aliases phrase).map fun _ => phrase).map some >>= _)
      rw [mapM_some_eq_map]
      cases hread : TypeExpr.read o.depth o.aliases phrase with
      | error e => rfl
      | ok type =>
        rw [TypeExpr.eq_of_read hread]
        rfl

/-- A row is made by reading its cells. -/
theorem madeOf_ofCells (o : Options) (cells : List String) :
    MadeOf (Reading.outcome o) (cellReadings cells) (Field.ofCells o cells) := by
  refine MadeOf.bind (MadeOf.option cells[0]? Reading.bare) fun name _ => ?_
  rw [bind_phrase]
  refine MadeOf.bind (MadeOf.option cells[1]? Reading.phrase) fun phrase _ => ?_
  exact (MadeOf.option (descriptionCell (cells.drop 2)) Reading.linked).map _

/-! ## Outside of the rows -/

section Heard

variable {m : Mark} (hasNote hasList : Bool) (ms : List Mark)

/-- A paragraph is read unless there is a note, and then there is one. -/
theorem heardReadings_cons_of_paragraph (h : m.kind = .paragraph) :
    heardReadings hasNote hasList (m :: ms) =
      (if hasNote then [] else [.linked m.line]) ++ heardReadings true hasList ms := by
  have hdrop : (m :: ms).dropWhile (!·.is .listOpen) = ms.dropWhile (!·.is .listOpen) :=
    List.dropWhile_cons_of_pos (by simp [Mark.is, h])
  have hitems : linesOf .listItem (m :: ms) = linesOf .listItem ms :=
    linesOf_cons_of_ne (by simp [h]) ms
  unfold heardReadings
  rw [linesOf_cons_of_is h, hdrop]
  cases hasNote <;> cases hasList <;> simp [hitems]

/-- An item before any list is not read. -/
theorem heardReadings_cons_of_listItem (h : m.kind = .listItem) :
    heardReadings hasNote false (m :: ms) = heardReadings hasNote false ms := by
  have hdrop : (m :: ms).dropWhile (!·.is .listOpen) = ms.dropWhile (!·.is .listOpen) :=
    List.dropWhile_cons_of_pos (by simp [Mark.is, h])
  have hparagraphs : linesOf .paragraph (m :: ms) = linesOf .paragraph ms :=
    linesOf_cons_of_ne (by simp [h]) ms
  unfold heardReadings
  rw [hparagraphs, hdrop]
  rfl

/-- An item behind the line that opens a list is read. -/
theorem heardReadings_perm_of_listItem (h : m.kind = .listItem) :
    ([Reading.bare m.line] ++ heardReadings hasNote true ms).Perm
      (heardReadings hasNote true (m :: ms)) := by
  have hparagraphs : linesOf .paragraph (m :: ms) = linesOf .paragraph ms :=
    linesOf_cons_of_ne (by simp [h]) ms
  unfold heardReadings
  rw [hparagraphs, if_pos rfl, if_pos rfl, linesOf_cons_of_is h, List.map_cons,
    List.singleton_append]
  exact List.perm_middle.symm

/-- From a line on that opens a list all items are read. -/
theorem heardReadings_cons_of_listOpen (h : m.kind = .listOpen) :
    heardReadings hasNote hasList (m :: ms) = heardReadings hasNote true ms := by
  have hdrop : (m :: ms).dropWhile (!·.is .listOpen) = m :: ms :=
    List.dropWhile_cons_of_neg (by simp [Mark.is, h])
  have hparagraphs : linesOf .paragraph (m :: ms) = linesOf .paragraph ms :=
    linesOf_cons_of_ne (by simp [h]) ms
  have hitems : linesOf .listItem (m :: ms) = linesOf .listItem ms :=
    linesOf_cons_of_ne (by simp [h]) ms
  unfold heardReadings
  rw [hparagraphs, hdrop, ite_self, hitems]
  rfl

/-- Any other mark is not read. -/
theorem heardReadings_cons_of_ne (hparagraph : m.kind ≠ .paragraph) (hitem : m.kind ≠ .listItem)
    (hopen : m.kind ≠ .listOpen) :
    heardReadings hasNote hasList (m :: ms) = heardReadings hasNote hasList ms := by
  have hdrop : (m :: ms).dropWhile (!·.is .listOpen) = ms.dropWhile (!·.is .listOpen) :=
    List.dropWhile_cons_of_pos (by simp [Mark.is, hopen])
  unfold heardReadings
  rw [linesOf_cons_of_ne hparagraph, hdrop]
  cases hasList with
  | true => rw [if_pos rfl, if_pos rfl, linesOf_cons_of_ne hitem]
  | false => rfl

end Heard

/-- Adding a label to the cases leaves the note and that there are cases. -/
theorem addCase_frame (label : String) (sec : Section) :
    (sec.addCase label).note = sec.note ∧ (sec.addCase label).cases.isSome = sec.cases.isSome := by
  unfold Section.addCase
  cases hcases : sec.cases with
  | none => exact ⟨rfl, by rw [hcases]⟩
  | some cases =>
    dsimp only
    split
    · exact ⟨rfl, rfl⟩
    · exact ⟨rfl, by rw [hcases]⟩

/-- What a section hears outside of its rows is made by reading these lines. -/
theorem madeOf_hearAll (o : Options) (sec : Section) (ms : List Mark) :
    MadeOf (Reading.outcome o) (heardReadings sec.note.isSome sec.cases.isSome ms)
      (sec.hearAll o ms) := by
  -- a section that has heard something reads less, so the section is general
  induction ms generalizing sec with
  | nil =>
    have hnothing : heardReadings sec.note.isSome sec.cases.isSome [] = [] := by
      cases sec.note.isSome <;> cases sec.cases.isSome <;> rfl
    rw [hnothing]
    exact MadeOf.nil sec
  | cons m ms ih =>
    rw [hearAll_cons]
    obtain ⟨kind, line⟩ := m
    cases kind with
    | paragraph =>
      rw [heardReadings_cons_of_paragraph _ _ _ rfl]
      cases hnote : sec.note with
      | some note =>
        have hhear : sec.hear o ⟨.paragraph, line⟩ = .ok sec := by simp [Section.hear, hnote]
        have hsec := ih sec
        rw [hnote] at hsec
        rw [hhear]
        exact hsec
      | none =>
        have hhear : sec.hear o ⟨.paragraph, line⟩ =
            (Reading.outcome o (.linked line)).map
              fun note => { sec with note := some note } := by
          simp [Section.hear, hnote, Reading.outcome]
        rw [hhear]
        refine MadeOf.bind (MadeOf.one _ _) fun t ht => ?_
        obtain ⟨note, -, rfl⟩ := map_eq_ok_iff.1 ht
        exact ih { sec with note := some note }
    | listItem =>
      cases hcases : sec.cases with
      | none =>
        have hhear : sec.hear o ⟨.listItem, line⟩ = .ok sec := by simp [Section.hear, hcases]
        have hsec := ih sec
        rw [hcases] at hsec
        rw [Option.isSome_none, heardReadings_cons_of_listItem _ _ rfl, hhear]
        exact hsec
      | some cases =>
        have hhear : sec.hear o ⟨.listItem, line⟩ =
            (Reading.outcome o (.bare line)).map fun label => sec.addCase label := by
          simp [Section.hear, hcases, Reading.outcome]
        rw [Option.isSome_some, hhear]
        refine (MadeOf.bind (MadeOf.one _ _) fun t ht => ?_).perm
          (heardReadings_perm_of_listItem (m := ⟨.listItem, line⟩) _ _ rfl)
        obtain ⟨label, -, rfl⟩ := map_eq_ok_iff.1 ht
        have hsec := ih (sec.addCase label)
        rwa [(addCase_frame label sec).1, (addCase_frame label sec).2, hcases] at hsec
    | listOpen =>
      rw [heardReadings_cons_of_listOpen _ _ _ rfl]
      exact ih { sec with cases := some [] }
    | _ =>
      rw [heardReadings_cons_of_ne _ _ _ (by simp) (by simp) (by simp)]
      exact ih sec

/-! ## Inside of a section -/

/-- The readings `rs` are those of the cells that the open row still takes, if one is open. -/
def RowReads (o : Options) (ms : List Mark) (rs : List Reading) : Option Field → Prop
  | none => rs = []
  | some row => MadeOf (Reading.outcome o) rs (row.fillAll o (cellsHere ms))

/-- The marks that are still heard outside of the rows, where one may be open. -/
def heardFrom (ms : List Mark) : Option Field → List Mark
  | none => outsideRows ms
  | some _ => outsideRows (behindRow ms)

/-- The readings `rs` of the open row, those of what is heard outside of the rows, and those of the
rows to come make the place behind the marks. -/
def PlaceReads (o : Options) (ms : List Mark) : Prop :=
  ∀ (sec : Section) (row : Option Field) (rs hs : List Reading), RowReads o ms rs row →
    MadeOf (Reading.outcome o) hs (sec.hearAll o (heardFrom ms row)) →
    MadeOf (Reading.outcome o) (rs ++ (hs ++ (rowCells ms).flatMap cellReadings))
      ((Place.of sec row).advanceAll o ms)

/-- The readings of a new row are those of its cells. -/
theorem rowReads_new (o : Options) (ms : List Mark) :
    RowReads o ms (cellReadings (cellsHere ms)) (some {}) := by
  show MadeOf _ _ (Field.fillAll o {} (cellsHere ms))
  rw [fillAll_new]
  exact madeOf_ofCells o (cellsHere ms)

/-- One more mark in front, with no row open. -/
theorem PlaceReads.cons_none {o : Options} {m : Mark} {ms : List Mark} (ih : PlaceReads o ms)
    {sec : Section} {hs : List Reading}
    (hsec : MadeOf (Reading.outcome o) hs (sec.hearAll o (outsideRows (m :: ms)))) :
    MadeOf (Reading.outcome o) (hs ++ (rowCells (m :: ms)).flatMap cellReadings)
      ((Place.inSection sec).advanceAll o (m :: ms)) := by
  rw [advanceAll_cons]
  by_cases hm : m.kind = .rowOpen
  · have hadvance : (Place.inSection sec).advance o m = .ok (.inRow sec {}) := by
      obtain ⟨kind, line⟩ := m
      cases hm
      rfl
    rw [outsideRows_cons_of_rowOpen hm] at hsec
    rw [hadvance, rowCells_cons_of_rowOpen hm, List.flatMap_cons]
    exact (ih sec (some {}) _ hs (rowReads_new o ms) hsec).perm (List.perm_append_comm_assoc _ _ _)
  · rw [outsideRows_cons_of_ne hm, hearAll_cons] at hsec
    rw [advance_inSection_of_ne o sec hm, rowCells_cons_of_ne hm]
    cases hhear : sec.hear o m with
    | error e =>
      rw [hhear] at hsec
      exact hsec.error_mono (List.subset_append_left _ _)
    | ok t =>
      rw [hhear] at hsec
      exact ih t none [] hs rfl hsec

/-- One more mark in front, with a row open. -/
theorem PlaceReads.cons_some {o : Options} {m : Mark} {ms : List Mark} (ih : PlaceReads o ms)
    {sec : Section} {row : Field} {rs hs : List Reading}
    (hrow : MadeOf (Reading.outcome o) rs (row.fillAll o (cellsHere (m :: ms))))
    (hsec : MadeOf (Reading.outcome o) hs
      (sec.hearAll o (outsideRows (behindRow (m :: ms))))) :
    MadeOf (Reading.outcome o) (rs ++ (hs ++ (rowCells (m :: ms)).flatMap cellReadings))
      ((Place.inRow sec row).advanceAll o (m :: ms)) := by
  obtain ⟨kind, line⟩ := m
  cases kind with
  | rowOpen =>
    -- the open row takes no more cells, and the new one is read as if it were the first
    rw [cellsHere_cons_of_endsRow rfl] at hrow
    rw [behindRow_cons_of_ne (by simp)] at hsec
    rw [rowCells_cons_of_rowOpen rfl, List.flatMap_cons]
    have hadded : MadeOf (Reading.outcome o) hs
        ((sec.addRows [row]).hearAll o (heardFrom ms (some {}))) := by
      rw [hearAll_addRows]
      exact hsec.map _
    refine MadeOf.add ?_ (hrow.of_ok row rfl)
    exact (ih _ (some {}) _ hs (rowReads_new o ms) hadded).perm (List.perm_append_comm_assoc _ _ _)
  | rowClose =>
    rw [cellsHere_cons_of_endsRow rfl] at hrow
    rw [behindRow_cons_of_rowClose rfl, outsideRows_cons_of_ne (by simp),
      hearAll_cons_of_rowClose o sec rfl] at hsec
    rw [rowCells_cons_of_ne (by simp)]
    have hadded : MadeOf (Reading.outcome o) hs
        ((sec.addRows [row]).hearAll o (heardFrom ms none)) := by
      rw [hearAll_addRows]
      exact hsec.map _
    exact MadeOf.add (ih _ none [] hs rfl hadded) (hrow.of_ok row rfl)
  | cell =>
    rw [cellsHere_cons_of_cell rfl, fillAll_cons] at hrow
    rw [behindRow_cons_of_ne (by simp)] at hsec
    rw [rowCells_cons_of_ne (by simp), advanceAll_cons]
    show MadeOf _ _ ((outcome (row.fill o line)).map (Place.inRow sec) >>= fun q =>
      q.advanceAll o ms)
    cases hfill : outcome (row.fill o line) with
    | error e =>
      rw [hfill] at hrow
      exact hrow.error_mono (List.subset_append_left _ _)
    | ok filled =>
      rw [hfill] at hrow
      exact ih sec (some filled) rs hs hrow hsec
  | _ =>
    -- inside of a row nothing else counts, here or in the outline
    rw [cellsHere_cons_of_ne rfl (by simp)] at hrow
    rw [behindRow_cons_of_ne (by simp)] at hsec
    rw [rowCells_cons_of_ne (by simp)]
    exact ih sec (some row) rs hs hrow hsec

/-- **What is read inside of a section makes the place behind its marks.** -/
theorem madeOf_advanceAll (o : Options) (ms : List Mark) : PlaceReads o ms := by
  -- the section and the open row stand for what has been read, so both are general
  induction ms with
  | nil =>
    intro sec row rs hs hrow hsec
    cases row with
    | none =>
      cases hrow
      rw [heardFrom, outsideRows] at hsec
      rw [List.nil_append]
      exact MadeOf.add (MadeOf.nil _) (hsec.of_ok sec rfl)
    | some row =>
      rw [heardFrom, behindRow, List.dropWhile_nil, outsideRows] at hsec
      exact MadeOf.add (MadeOf.add (MadeOf.nil _) (hsec.of_ok sec rfl)) (hrow.of_ok row rfl)
  | cons m ms ih =>
    intro sec row rs hs hrow hsec
    cases row with
    | none =>
      cases hrow
      exact ih.cons_none hsec
    | some row => exact ih.cons_some hrow hsec

/-! ## Pages -/

/-- A part is passed by reading its heading and the section that it opens. -/
theorem madeOf_pass_part {o : Options} (s : Scan) {m : Mark} {ms : List Mark}
    (hheading : m.kind = .heading) (hrest : ∀ m ∈ ms, m.is .heading = false) :
    MadeOf (Reading.outcome o) (partReadings (m, ms)) (s.pass o (m :: ms)) := by
  rw [pass_cons, passMark_of_heading o s hheading]
  refine MadeOf.bind (MadeOf.one (Reading.bare m.line) _) fun t ht => ?_
  obtain ⟨title, htitle, rfl⟩ := map_eq_ok_iff.1 ht
  have htitle : Markup.bareText m.line = .ok title := htitle
  have hopens : m.opensSection = !isNarrative title := by
    unfold Mark.opensSection
    rw [htitle]
  unfold Scan.heading
  dsimp only
  rw [hopens]
  cases hn : isNarrative title with
  | true =>
    have hout := pass_outside o s.sections (s.skipped + 1) ms hrest
    exact hout ▸ MadeOf.nil _
  | false =>
    -- the section up to the line that closes its table, then what is passed over
    have hbody : ms = body ms ++ ms.dropWhile (!·.is .tableClose) :=
      List.takeWhile_append_dropWhile.symm
    have hplace := madeOf_advanceAll o (body ms) { title := some title } none []
      (heardReadings false false (outsideRows (body ms))) rfl
      (madeOf_hearAll o { title := some title } (outsideRows (body ms)))
    have hbehind : ∀ t : Scan, MadeOf (Reading.outcome o) []
        (t.pass o (ms.dropWhile (!·.is .tableClose))) := by
      intro t
      obtain ⟨u, hu, -⟩ := exists_pass_behind_body o t hrest
      rw [hu]
      exact MadeOf.nil u
    have hboth := MadeOf.bind
      (hplace.map fun p => { s.leave with place := p : Scan }) fun t _ => hbehind t
    rw [List.append_nil, List.nil_append] at hboth
    have hpass := pass_append o { s.leave with place := .inSection { title := some title } }
      (body ms) (ms.dropWhile (!·.is .tableClose))
    rw [← hbody, pass_eq_advanceAll o _ _ (isInner_of_mem_body hrest)] at hpass
    exact hpass ▸ hboth

/-- Parts are passed by reading them one after the other. -/
theorem madeOf_pass_parts {o : Options} (s : Scan) {ps : List (Mark × List Mark)}
    (hps : ∀ part ∈ ps, part.1.kind = .heading ∧ ∀ m ∈ part.2, m.is .heading = false) :
    MadeOf (Reading.outcome o) (ps.flatMap partReadings)
      (s.pass o (ps.flatMap fun part => part.1 :: part.2)) := by
  induction ps generalizing s with
  | nil => exact MadeOf.nil s
  | cons part ps ih =>
    obtain ⟨hheading, hrest⟩ := hps part List.mem_cons_self
    rw [List.flatMap_cons, List.flatMap_cons, pass_append]
    refine MadeOf.bind (madeOf_pass_part s hheading hrest) fun t _ => ?_
    exact ih t fun part' hpart' => hps part' (List.mem_cons_of_mem _ hpart')

/-- **A scan is made by reading these lines of the page**, and no others. -/
theorem madeOf_scan (o : Options) (text : String) :
    MadeOf (Reading.outcome o) (pageReadings o text) (scan o text) := by
  rw [scan_eq_pass, pass_eq_pass_parts]
  exact madeOf_pass_parts _ (forall_mem_parts _)

/-- What is read of a row of a page is read of the page. -/
theorem cellReadings_subset {o : Options} {text : String} {cells : List String}
    (h : cells ∈ pageRows o text) : cellReadings cells ⊆ pageReadings o text := by
  unfold pageRows rowsOf at h
  obtain ⟨part, hpart, hcells⟩ := List.mem_flatMap.1 h
  obtain ⟨hpart, hopens⟩ := List.mem_filter.1 hpart
  intro r hr
  refine List.mem_flatMap.2 ⟨part, hpart, List.mem_cons_of_mem _ ?_⟩
  rw [if_pos hopens]
  exact List.mem_append_right _ (List.mem_flatMap.2 ⟨cells, hcells, hr⟩)

/-- The phrase of a field of a page is the text of a cell that is read as a type. -/
theorem exists_phrase_of_mem_rows {o : Options} {text : String} {s : Scan}
    (h : scan o text = .ok s) {f : Field} (hf : f ∈ s.rows) {phrase : String}
    (hphrase : f.phrase = some phrase) :
    ∃ cell, Reading.phrase cell ∈ pageReadings o text ∧ Markup.bareText cell = .ok phrase := by
  obtain ⟨cells, hcells, hread⟩ := exists_cells_of_mem_rows h hf
  obtain ⟨-, hcell, -⟩ := of_ofCells hread
  rw [hphrase] at hcell
  cases hsecond : cells[1]? with
  | none =>
    rw [hsecond] at hcell
    cases hcell
  | some cell =>
    rw [hsecond, mapM_some_eq_map] at hcell
    obtain ⟨phrase', htext, hsome⟩ := map_eq_ok_iff.1 hcell
    cases hsome
    refine ⟨cell, cellReadings_subset hcells ?_, htext⟩
    simp [cellReadings, hsecond]

/-! ## Where the lines stand -/

/-- The line that is read. -/
def Reading.line : Reading → String
  | .bare line => line
  | .linked line => line
  | .phrase line => line

/-- What stands outside of the rows stands in the section. -/
theorem outsideRows_subset (ms : List Mark) : outsideRows ms ⊆ ms := by
  fun_induction outsideRows ms with
  | case1 => exact List.Subset.refl _
  | case2 m ms _ ih =>
    have hbehind : behindRow ms ⊆ m :: ms :=
      List.Subset.trans (List.dropWhile_suffix _).subset (List.subset_cons_self m ms)
    exact List.Subset.trans ih hbehind
  | case3 m ms _ ih => exact List.cons_subset_cons m ih

/-- Lines of one kind are lines. -/
theorem linesOf_subset (k : LineKind) {ms ns : List Mark} (h : ms ⊆ ns) :
    linesOf k ms ⊆ ns.map (·.line) :=
  List.map_subset _ (List.Subset.trans List.filter_sublist.subset h)

/-- The cells of a row are lines of the section. -/
theorem subset_of_mem_rowCells {ms : List Mark} {cells : List String} (h : cells ∈ rowCells ms) :
    cells ⊆ ms.map (·.line) := by
  induction ms with
  | nil => cases h
  | cons m ms ih =>
    have hbehind : ms.map (·.line) ⊆ (m :: ms).map (·.line) :=
      List.map_subset _ (List.subset_cons_self m ms)
    by_cases hm : m.kind = .rowOpen
    · rw [rowCells_cons_of_rowOpen hm] at h
      rcases List.mem_cons.1 h with rfl | h
      · exact List.Subset.trans (linesOf_subset .cell (List.takeWhile_prefix _).subset) hbehind
      · exact List.Subset.trans (ih h) hbehind
    · rw [rowCells_cons_of_ne hm] at h
      exact List.Subset.trans (ih h) hbehind

/-- What is read of a row are its cells. -/
theorem line_mem_of_cellReadings {cells : List String} {r : Reading} (h : r ∈ cellReadings cells) :
    r.line ∈ cells := by
  unfold cellReadings at h
  simp only [List.mem_append, List.mem_map, Option.mem_toList] at h
  rcases h with ⟨cell, hcell, rfl⟩ | ⟨cell, hcell, rfl⟩ | ⟨cell, hcell, rfl⟩
  · exact List.mem_of_getElem? hcell
  · exact List.mem_of_getElem? hcell
  · exact (List.drop_suffix 2 cells).subset (List.mem_of_find?_eq_some hcell)

/-- What is read of a section are its lines. -/
theorem line_mem_of_sectionReadings {ms : List Mark} {r : Reading} (h : r ∈ sectionReadings ms) :
    r.line ∈ ms.map (·.line) := by
  unfold sectionReadings heardReadings at h
  simp only [List.mem_append, List.mem_flatMap] at h
  rcases h with (h | h) | ⟨cells, hcells, hr⟩
  · obtain ⟨line, hline, rfl⟩ := List.mem_map.1 h
    exact linesOf_subset .paragraph (outsideRows_subset ms)
      (List.mem_of_mem_head? (Option.mem_toList.1 hline))
  · obtain ⟨line, hline, rfl⟩ := List.mem_map.1 h
    exact linesOf_subset .listItem
      (List.Subset.trans (List.dropWhile_suffix _).subset (outsideRows_subset ms)) hline
  · exact subset_of_mem_rowCells hcells (line_mem_of_cellReadings hr)

/-- The parts of a page are made of its marks. -/
theorem subset_of_mem_parts {ms : List Mark} {part : Mark × List Mark} (h : part ∈ parts ms) :
    part.1 :: part.2 ⊆ ms := by
  induction ms with
  | nil => cases h
  | cons m ms ih =>
    unfold parts at h
    split at h
    · rcases List.mem_cons.1 h with rfl | h
      · exact List.cons_subset_cons m (List.takeWhile_prefix _).subset
      · exact List.Subset.trans (ih h) (List.subset_cons_self m ms)
    · exact List.Subset.trans (ih h) (List.subset_cons_self m ms)

/-- A mark is a line with its kind. -/
theorem line_mem_of_mem_marks {tag : String} {lines : List String} {m : Mark}
    (h : m ∈ marks tag lines) : m.line ∈ lines := by
  obtain ⟨line, hline, hm⟩ := List.mem_filterMap.1 h
  obtain ⟨kind, -, rfl⟩ := Option.map_eq_some_iff.1 hm
  exact hline

/-- **What is read of a page are its lines.** -/
theorem line_mem_of_pageReadings {o : Options} {text : String} {r : Reading}
    (h : r ∈ pageReadings o text) : r.line ∈ pageLines text := by
  obtain ⟨⟨m, ms⟩, hpart, hr⟩ := List.mem_flatMap.1 h
  have hmarks : ∀ m' ∈ m :: ms, m'.line ∈ pageLines text := fun m' hm' =>
    line_mem_of_mem_marks (subset_of_mem_parts hpart hm')
  rcases List.mem_cons.1 hr with rfl | hr
  · exact hmarks m List.mem_cons_self
  · dsimp only at hr
    split at hr
    · obtain ⟨m', hm', hline⟩ := List.mem_map.1 (line_mem_of_sectionReadings hr)
      rw [← hline]
      exact hmarks m' (List.mem_cons_of_mem m ((List.takeWhile_prefix _).subset hm'))
    · cases hr

end ApiBindings.Reference
