import ApiBindings.Proofs.Outcome
import ApiBindings.Proofs.Reference.Outline
/-!
# Passing over marks

A scan that returns has passed over all marks of the page, one after the other. Between a heading
and the next heading or the end of a table only the place of the scan moves, and it moves without
regard to what is closed already. Main statements: a whole scan is such a passage (`scan_eq_pass`),
and inside of a section it is a passage of the place alone (`pass_eq_advanceAll`).
-/

namespace ApiBindings.Reference

/-! ## Marks and lines -/

/-- The marks of a line before other lines. -/
theorem marks_cons (tag line : String) (lines : List String) :
    marks tag (line :: lines) =
      (LineKind.ofLine? tag line).toList.map (⟨·, line⟩) ++ marks tag lines := by
  unfold marks
  rw [List.filterMap_cons]
  cases LineKind.ofLine? tag line <;> rfl

/-- A scan behind a mark, if the line is read without an error. -/
def Scan.passMark (o : Options) (s : Scan) (m : Mark) : Except Error Scan :=
  outcome (s.take o m.kind m.line)

/-- A scan behind several marks. -/
def Scan.pass (o : Options) (s : Scan) (ms : List Mark) : Except Error Scan :=
  ms.foldlM (Scan.passMark o) s

theorem pass_cons (o : Options) (s : Scan) (m : Mark) (ms : List Mark) :
    s.pass o (m :: ms) = (s.passMark o m >>= fun t => t.pass o ms) := rfl

theorem pass_append (o : Options) (s : Scan) (ms ns : List Mark) :
    s.pass o (ms ++ ns) = (s.pass o ms >>= fun t => t.pass o ns) := by
  unfold Scan.pass
  rw [List.foldlM_append]

/-- Lines without a meaning do not count: a run over lines passes over their marks. -/
theorem run_eq_pass (o : Options) (s : Scan) (lines : List String) :
    outcome (s.run o lines) = s.pass o (marks o.headingTag lines) := by
  induction lines generalizing s with
  | nil => rfl
  | cons line lines ih =>
    rw [marks_cons, Scan.run, Scan.step]
    cases LineKind.ofLine? o.headingTag line with
    | none => exact ih s
    | some kind =>
      show _ = s.pass o (⟨kind, line⟩ :: marks o.headingTag lines)
      rw [pass_cons, Scan.passMark]
      dsimp only
      obtain ⟨t, e⟩ := s.take o kind line
      cases e with
      | none => exact ih t
      | some e => rfl

/-- **The scan of a page passes over its marks.** -/
theorem scan_eq_pass (o : Options) (text : String) :
    scan o text = Scan.start.pass o (marks o.headingTag (pageLines text)) := by
  rw [← run_eq_pass, scan]
  obtain ⟨t, e⟩ := Scan.start.run o (pageLines text)
  cases e <;> rfl

/-! ## Inside of a section -/

/-- The mark neither begins nor ends a section. -/
def Mark.isInner (m : Mark) : Bool := !m.is .heading && !m.is .tableClose

/-- The section after a mark that stands outside of its rows. -/
def Section.hear (o : Options) (sec : Section) (m : Mark) : Except Error Section :=
  match m.kind with
  | .paragraph =>
    if sec.note.isSome then .ok sec
    else (Markup.linkedText o.base m.line).map fun note => { sec with note := some note }
  | .listOpen => .ok { sec with cases := some [] }
  | .listItem =>
    if sec.cases.isNone then .ok sec
    else (Markup.bareText m.line).map fun label => sec.addCase label
  | _ => .ok sec

/-- The section with more rows at its end. -/
def Section.addRows (rows : List Field) (sec : Section) : Section :=
  { sec with fields := sec.fields ++ rows }

/-- Where a scan stands behind a mark that neither begins nor ends a section. -/
def Place.advance (o : Options) (p : Place) (m : Mark) : Except Error Place :=
  match m.kind, p with
  | .rowOpen, .inSection sec => .ok (.inRow sec {})
  | .rowOpen, .inRow sec row => .ok (.inRow (sec.addRows [row]) {})
  | .rowClose, .inRow sec row => .ok (.inSection (sec.addRows [row]))
  | .cell, .inRow sec row => (outcome (row.fill o m.line)).map (.inRow sec)
  | _, .inSection sec => (sec.hear o m).map .inSection
  | _, _ => .ok p

/-- Where a scan stands behind several such marks. -/
def Place.advanceAll (o : Options) (p : Place) (ms : List Mark) : Except Error Place :=
  ms.foldlM (Place.advance o) p

theorem advanceAll_cons (o : Options) (p : Place) (m : Mark) (ms : List Mark) :
    p.advanceAll o (m :: ms) = (p.advance o m >>= fun q => q.advanceAll o ms) := rfl

/-- A heading closes what is open and opens what its text says. -/
theorem passMark_of_heading (o : Options) (s : Scan) {m : Mark} (h : m.kind = .heading) :
    s.passMark o m = (Markup.bareText m.line).map fun title => s.leave.heading title := by
  rw [Scan.passMark, h]
  exact outcome_receive _ _ _

/-- The end of a table closes what is open. -/
theorem passMark_of_tableClose (o : Options) (s : Scan) {m : Mark} (h : m.kind = .tableClose) :
    s.passMark o m = .ok s.leave := by
  rw [Scan.passMark, h]
  rfl

/-- Any other mark moves the place and nothing else. -/
theorem passMark_of_isInner (o : Options) (s : Scan) {m : Mark} (h : m.isInner = true) :
    s.passMark o m = (s.place.advance o m).map fun p => { s with place := p } := by
  obtain ⟨closed, place, skipped⟩ := s
  obtain ⟨kind, line⟩ := m
  unfold Scan.passMark Scan.take Place.advance Section.hear
  -- only the three kinds whose line is read, and may not be readable, need a look at the reading
  cases kind with
  | heading => simp [Mark.isInner, Mark.is] at h
  | tableClose => simp [Mark.isInner, Mark.is] at h
  | paragraph =>
    cases place with
    | inSection sec =>
      dsimp only
      by_cases hn : sec.note.isSome = true
      · rw [if_pos hn, if_pos hn]
        rfl
      · rw [if_neg hn, if_neg hn, outcome_receive]
        cases Markup.linkedText o.base line <;> rfl
    | outside => rfl
    | inRow sec row => rfl
  | listItem =>
    cases place with
    | inSection sec =>
      dsimp only
      by_cases hc : sec.cases.isNone = true
      · rw [if_pos hc, if_pos hc]
        rfl
      · rw [if_neg hc, if_neg hc, outcome_receive]
        cases Markup.bareText line <;> rfl
    | outside => rfl
    | inRow sec row => rfl
  | cell =>
    cases place with
    | inRow sec row =>
      dsimp only
      obtain ⟨row', e⟩ := row.fill o line
      cases e <;> rfl
    | outside => rfl
    | inSection sec => rfl
  | listOpen => cases place <;> rfl
  | rowOpen => cases place <;> rfl
  | rowClose => cases place <;> rfl

/-- **Between a heading and the end of its section only the place moves.** -/
theorem pass_eq_advanceAll (o : Options) (s : Scan) (ms : List Mark)
    (h : ∀ m ∈ ms, m.isInner = true) :
    s.pass o ms = (s.place.advanceAll o ms).map fun p => { s with place := p } := by
  induction ms generalizing s with
  | nil => rfl
  | cons m ms ih =>
    rw [pass_cons, advanceAll_cons, passMark_of_isInner o s (h m List.mem_cons_self)]
    cases s.place.advance o m with
    | error e => rfl
    | ok p => exact ih { s with place := p } fun m' hm' => h m' (List.mem_cons_of_mem _ hm')

/-- Outside of every section no mark but a heading does anything. -/
theorem pass_outside (o : Options) (closed : List Section) (skipped : Nat) (ms : List Mark)
    (h : ∀ m ∈ ms, m.is .heading = false) :
    Scan.pass o ⟨closed, .outside, skipped⟩ ms = .ok ⟨closed, .outside, skipped⟩ := by
  induction ms with
  | nil => rfl
  | cons m ms ih =>
    have hm : Scan.passMark o ⟨closed, .outside, skipped⟩ m = .ok ⟨closed, .outside, skipped⟩ := by
      obtain ⟨kind, line⟩ := m
      have hk : kind ≠ .heading := by simpa [Mark.is] using h _ List.mem_cons_self
      cases kind with
      | heading => exact absurd rfl hk
      | tableClose =>
        rw [passMark_of_tableClose o _ rfl]
        simp [Scan.leave, Scan.sections, Place.section?]
      | _ => rfl
    rw [pass_cons, hm]
    exact ih fun m' hm' => h m' (List.mem_cons_of_mem _ hm')

end ApiBindings.Reference
