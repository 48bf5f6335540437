import ApiBindings.Proofs.Reference.Cursors
/-!
# What no line changes

A section that is not open, and a row that is not open, can be read but not written: no cursor ever
goes back to one of them. Of the open section a line leaves the title, and the note if there is one;
of the open row it leaves every slot that is filled. One line either stays in the open section or
leaves it for good (`moves_take`), and so this holds of a line and of any number of lines. Main
statement: whatever has been asked of a fresh scan, the next lines keep all of this, also those that
end in an error (`freezes_of_actions`).
-/

namespace ApiBindings.Reference

/-! ## Rows and sections -/

/-- What is in a slot of a row stays in it. -/
structure Field.IsKept (f g : Field) : Prop where
  name : ∀ name, f.name = some name → g.name = some name
  phrase : ∀ phrase, f.phrase = some phrase → g.phrase = some phrase
  type : ∀ type, f.type = some type → g.type = some type
  description : ∀ text, f.description = some text → g.description = some text

theorem Field.IsKept.refl (f : Field) : f.IsKept f :=
  ⟨fun _ h => h, fun _ h => h, fun _ h => h, fun _ h => h⟩

theorem Field.IsKept.trans {f g h : Field} (hfg : f.IsKept g) (hgh : g.IsKept h) : f.IsKept h :=
  ⟨fun _ hf => hgh.name _ (hfg.name _ hf), fun _ hf => hgh.phrase _ (hfg.phrase _ hf),
    fun _ hf => hgh.type _ (hfg.type _ hf), fun _ hf => hgh.description _ (hfg.description _ hf)⟩

/-- The title and the note of a section stay, and so do its rows in their places; only a row that is
open can be another, and keeps what is in its slots. -/
structure Section.IsKept (isOpen : Nat → Prop) (s t : Section) : Prop where
  title : t.title = s.title
  note : ∀ note, s.note = some note → t.note = some note
  rows : ∀ j row, s.fields[j]? = some row →
    ∃ row', t.fields[j]? = some row' ∧ (¬isOpen j → row' = row) ∧ row.IsKept row'

theorem Section.IsKept.refl (isOpen : Nat → Prop) (s : Section) : s.IsKept isOpen s :=
  ⟨rfl, fun _ h => h, fun _ row h => ⟨row, h, fun _ => rfl, .refl row⟩⟩

/-- What is kept twice is kept, if no row is opened in between that was there before. -/
theorem Section.IsKept.trans {isOpen isOpen' : Nat → Prop} {s t u : Section}
    (hst : s.IsKept isOpen t) (htu : t.IsKept isOpen' u)
    (hopen : ∀ j < s.fields.length, isOpen' j → isOpen j) : s.IsKept isOpen u := by
  refine ⟨htu.title.trans hst.title, fun _ h => htu.note _ (hst.note _ h), ?_⟩
  intro j row hrow
  obtain ⟨row', hrow', hsame, hkept⟩ := hst.rows j row hrow
  obtain ⟨row'', hrow'', hsame', hkept'⟩ := htu.rows j row' hrow'
  refine ⟨row'', hrow'', ?_, hkept.trans hkept'⟩
  intro hclosed
  have hj : j < s.fields.length := (List.getElem?_eq_some_iff.1 hrow).1
  exact (hsame' fun h => hclosed (hopen j hj h)).trans (hsame hclosed)

/-- A section with more rows at its end. -/
theorem Section.IsKept.of_isPrefix {isOpen : Nat → Prop} {s t : Section}
    (htitle : t.title = s.title) (hnote : ∀ note, s.note = some note → t.note = some note)
    (hrows : s.fields <+: t.fields) : s.IsKept isOpen t := by
  refine ⟨htitle, hnote, ?_⟩
  intro j row hrow
  obtain ⟨more, hmore⟩ := hrows
  refine ⟨row, ?_, fun _ => rfl, .refl row⟩
  have hj : j < s.fields.length := (List.getElem?_eq_some_iff.1 hrow).1
  rw [← hmore, List.getElem?_append_left hj]
  exact hrow

/-- A cell fills an empty slot, also where it cannot be read. The type is filled behind the phrase,
and in a row that is filled in order it is empty before if the phrase is. -/
theorem Field.IsFilledInOrder.isKept_fill {o : Options} {f : Field} (hf : f.IsFilledInOrder o)
    (line : String) : f.IsKept (f.fill o line).1 := by
  generalize h : (f.fill o line).1 = g
  rcases eq_of_fill h with ⟨hname, name, rfl⟩ | ⟨-, hphrase, phrase, rfl⟩ |
    ⟨-, -, hdescription, ⟨requirement, rfl⟩ | ⟨text, rfl⟩⟩ | rfl
  · exact ⟨by simp [hname], fun _ h => h, fun _ h => h, fun _ h => h⟩
  · have htype : f.type = none := by rw [hf.type_eq, hphrase, Option.bind_none]
    rw [fst_fillType o phrase htype]
    exact ⟨fun _ h => h, by simp [hphrase], by simp [htype], fun _ h => h⟩
  · exact ⟨fun _ h => h, fun _ h => h, fun _ h => h, fun _ h => h⟩
  · exact ⟨fun _ h => h, fun _ h => h, fun _ h => h, by simp [hdescription]⟩
  · exact .refl _

/-! ## The open section -/

/-- The place of the open row among the rows of the open section. -/
def Place.rowIndex? : Place → Option Nat
  | .inRow sec _ => some sec.fields.length
  | _ => none

/-- The same section is open at both places, and if a row that was there is open in the end, it was
before. -/
def Place.GoesOn (p q : Place) : Prop :=
  ∃ s t, p.section? = some s ∧ q.section? = some t ∧ s.IsKept (p.rowIndex? = some ·) t ∧
    ∀ j < s.fields.length, q.rowIndex? = some j → p.rowIndex? = some j

/-- Between rows, whatever leaves title, note and rows goes on. -/
theorem Place.GoesOn.inSection {s t : Section} (htitle : t.title = s.title)
    (hnote : ∀ note, s.note = some note → t.note = some note) (hfields : t.fields = s.fields) :
    (Place.inSection s).GoesOn (.inSection t) :=
  ⟨s, t, rfl, rfl, .of_isPrefix htitle hnote (hfields ▸ List.prefix_rfl), fun _ _ h => h⟩

/-- A new row stands behind all rows. -/
theorem Place.GoesOn.newRow {p : Place} {s : Section} (h : p.section? = some s) :
    p.GoesOn (.inRow s {}) := by
  refine ⟨s, { s with fields := s.fields ++ [{}] }, h, rfl, ?_, ?_⟩
  · exact .of_isPrefix rfl (fun _ h => h) (List.prefix_append _ _)
  · intro j hj hopen
    exact absurd (Option.some.inj hopen) (Nat.ne_of_gt hj)

/-- The open row is closed where it stands. -/
theorem Place.GoesOn.closeRow (s : Section) (row : Field) :
    (Place.inRow s row).GoesOn (.inSection { s with fields := s.fields ++ [row] }) :=
  ⟨_, _, rfl, rfl, .refl _ _, fun _ _ h => absurd h (by simp [Place.rowIndex?])⟩

/-- The open row is filled where it stands. -/
theorem Place.GoesOn.fillRow (s : Section) {row row' : Field} (h : row.IsKept row') :
    (Place.inRow s row).GoesOn (.inRow s row') := by
  refine ⟨_, _, rfl, rfl, ⟨rfl, fun _ h => h, ?_⟩, fun _ _ h => h⟩
  intro j f hf
  rcases Nat.lt_or_ge j s.fields.length with hj | hj
  · -- a row before the open one
    refine ⟨f, ?_, fun _ => rfl, .refl f⟩
    rw [List.getElem?_append_left hj] at hf ⊢
    exact hf
  · have hlast : j = s.fields.length := by
      have hlen := (List.getElem?_eq_some_iff.1 hf).1
      rw [List.length_append, List.length_singleton] at hlen
      omega
    subst hlast
    obtain rfl : row = f := by simpa using hf
    exact ⟨row', by simp, fun hopen => absurd rfl hopen, h⟩

/-! ## One line -/

/-- The scan has stayed in the open section, or has left it for good. -/
def Scan.Moves (s t : Scan) : Prop :=
  (t.closed = s.closed ∧ s.place.GoesOn t.place) ∨ t.closed = s.sections

theorem moves_refl (s : Scan) : s.Moves s := by
  obtain ⟨closed, place, skipped⟩ := s
  cases place with
  | outside => exact Or.inr (List.append_nil closed).symm
  | inSection sec => exact Or.inl ⟨rfl, sec, sec, rfl, rfl, .refl _ sec, fun j _ h => h⟩
  | inRow sec row => exact Or.inl ⟨rfl, _, _, rfl, rfl, .refl _ _, fun j _ h => h⟩

theorem moves_leave (s : Scan) : s.Moves s.leave := Or.inr rfl

/-- A scan that receives something is as it was, or what is put into it. -/
theorem moves_receive {α : Type} {read : Except Error α} {put : α → Scan} {s t : Scan}
    (hstays : s.Moves t) (hput : ∀ a, read = .ok a → s.Moves (put a)) :
    s.Moves (receive t read put).1 := by
  cases read with
  | error e => exact hstays
  | ok a => exact hput a rfl

/-- A list item is nothing but a case. -/
theorem Place.GoesOn.addCase (s : Section) (label : String) :
    (Place.inSection s).GoesOn (.inSection (s.addCase label)) := by
  unfold Section.addCase
  split
  · exact .inSection rfl (fun _ h => h) rfl
  · split
    · exact .inSection rfl (fun _ h => h) rfl
    · exact .inSection rfl (fun _ h => h) rfl

/-- **One line moves on**: it stays in the open section, or leaves it for good. -/
theorem moves_take {o : Options} {s : Scan} (hs : s.IsFilledInOrder o) (kind : LineKind)
    (line : String) : s.Moves (s.take o kind line).1 := by
  obtain ⟨closed, place, skipped⟩ := s
  cases kind with
  | heading =>
    refine moves_receive (moves_leave _) ?_
    intro title _
    unfold Scan.heading
    split <;> exact Or.inr rfl
  | tableClose => exact moves_leave _
  | paragraph =>
    cases place with
    | outside => exact moves_refl _
    | inRow sec row => exact moves_refl _
    | inSection sec =>
      unfold Scan.take
      dsimp only
      split
      · exact moves_refl _
      · rename_i hnote
        refine moves_receive (moves_refl _) ?_
        intro note _
        have hempty : sec.note = none := by simpa using hnote
        exact Or.inl ⟨rfl, .inSection rfl (fun _ h => by simp [hempty] at h) rfl⟩
  | listOpen =>
    cases place with
    | outside => exact moves_refl _
    | inRow sec row => exact moves_refl _
    | inSection sec => exact Or.inl ⟨rfl, .inSection rfl (fun _ h => h) rfl⟩
  | listItem =>
    cases place with
    | outside => exact moves_refl _
    | inRow sec row => exact moves_refl _
    | inSection sec =>
      unfold Scan.take
      dsimp only
      split
      · exact moves_refl _
      · refine moves_receive (moves_refl _) ?_
        intro label _
        exact Or.inl ⟨rfl, .addCase sec label⟩
  | rowOpen =>
    cases place with
    | outside => exact moves_refl _
    | inSection sec => exact Or.inl ⟨rfl, .newRow rfl⟩
    | inRow sec row => exact Or.inl ⟨rfl, .newRow rfl⟩
  | rowClose =>
    cases place with
    | outside => exact moves_refl _
    | inSection sec => exact moves_refl _
    | inRow sec row => exact Or.inl ⟨rfl, .closeRow sec row⟩
  | cell =>
    cases place with
    | outside => exact moves_refl _
    | inSection sec => exact moves_refl _
    | inRow sec row =>
      have hrow : row.IsFilledInOrder o :=
        hs row (by simp [Scan.rows, Scan.sections, Place.section?])
      exact Or.inl ⟨rfl, .fillRow sec (hrow.isKept_fill line)⟩

/-! ## Registers -/

/-- The sections of `c` are kept in `d`, and only the one that is open in `c` can be another; no
cursor has gone back to a section or a row that was there and not open. -/
structure Cursors.Freezes (c d : Cursors) : Prop where
  sections : ∀ i sec, c.sections[i]? = some sec →
    ∃ sec', d.sections[i]? = some sec' ∧ (c.openSection ≠ some i → sec' = sec) ∧
      sec.IsKept (fun j => c.openRow = some (i, j)) sec'
  openSection : ∀ i < c.sections.length, d.openSection = some i → c.openSection = some i
  openRow : ∀ i j sec, c.sections[i]? = some sec → j < sec.fields.length →
    d.openRow = some (i, j) → c.openRow = some (i, j)

theorem Cursors.Freezes.refl (c : Cursors) : c.Freezes c :=
  ⟨fun _ sec h => ⟨sec, h, fun _ => rfl, .refl _ sec⟩, fun _ _ h => h, fun _ _ _ _ _ h => h⟩

theorem Cursors.Freezes.trans {c d e : Cursors} (hcd : c.Freezes d) (hde : d.Freezes e) :
    c.Freezes e where
  sections := by
    intro i sec hsec
    obtain ⟨sec', hsec', hsame, hkept⟩ := hcd.sections i sec hsec
    obtain ⟨sec'', hsec'', hsame', hkept'⟩ := hde.sections i sec' hsec'
    have hi : i < c.sections.length := (List.getElem?_eq_some_iff.1 hsec).1
    refine ⟨sec'', hsec'', ?_, hkept.trans hkept' fun j hj => hcd.openRow i j sec hsec hj⟩
    intro hclosed
    exact (hsame' fun h => hclosed (hcd.openSection i hi h)).trans (hsame hclosed)
  openSection := by
    intro i hi hopen
    obtain ⟨sec', hsec', -⟩ := hcd.sections i _ (List.getElem?_eq_getElem hi)
    exact hcd.openSection i hi (hde.openSection i (List.getElem?_eq_some_iff.1 hsec').1 hopen)
  openRow := by
    intro i j sec hsec hj hopen
    obtain ⟨sec', hsec', -, hkept⟩ := hcd.sections i sec hsec
    obtain ⟨row', hrow', -⟩ := hkept.rows j _ (List.getElem?_eq_getElem hj)
    have hj' : j < sec'.fields.length := (List.getElem?_eq_some_iff.1 hrow').1
    exact hcd.openRow i j sec hsec hj (hde.openRow i j sec' hsec' hj' hopen)

theorem openRow_cursors (s : Scan) (i j : Nat) :
    s.cursors.openRow = some (i, j) ↔ s.closed.length = i ∧ s.place.rowIndex? = some j := by
  obtain ⟨closed, place, skipped⟩ := s
  cases place <;> simp [Scan.cursors, Place.rowIndex?]

theorem openSection_cursors {s : Scan} {i : Nat} (h : s.cursors.openSection = some i) :
    s.closed.length = i := by
  obtain ⟨closed, place, skipped⟩ := s
  cases place <;> simp_all [Scan.cursors, Place.section?]

/-- Staying in the open section leaves everything else as it is. -/
theorem Place.GoesOn.freezes {s t : Scan} (hclosed : t.closed = s.closed)
    (h : s.place.GoesOn t.place) : s.cursors.Freezes t.cursors := by
  obtain ⟨sec, sec', hsec, hsec', hkept, hopen⟩ := h
  have hs : s.sections = s.closed ++ [sec] := by simp [Scan.sections, hsec]
  have ht : t.sections = s.closed ++ [sec'] := by simp [Scan.sections, hclosed, hsec']
  have hcursor : s.cursors.openSection = some s.closed.length := by simp [Scan.cursors, hsec]
  constructor
  · show ∀ i a, s.sections[i]? = some a → ∃ a', t.sections[i]? = some a' ∧ _
    intro i a ha
    rw [hs] at ha
    rw [ht]
    rcases Nat.lt_or_ge i s.closed.length with hi | hi
    · rw [List.getElem?_append_left hi] at ha ⊢
      exact ⟨a, ha, fun _ => rfl, .refl _ a⟩
    · -- the open section
      have hlast : i = s.closed.length := by
        have hlen := (List.getElem?_eq_some_iff.1 ha).1
        rw [List.length_append, List.length_singleton] at hlen
        omega
      subst hlast
      obtain rfl : sec = a := by simpa using ha
      refine ⟨sec', by simp, fun hother => absurd hcursor hother, ?_⟩
      simpa only [openRow_cursors, true_and] using hkept
  · intro i _ hi
    rw [hcursor, ← openSection_cursors hi, hclosed]
  · show ∀ i j a, s.sections[i]? = some a → _
    intro i j a ha hj hrow
    rw [openRow_cursors, hclosed] at hrow
    obtain ⟨rfl, hrow⟩ := hrow
    obtain rfl : sec = a := by simpa [hs] using ha
    exact (openRow_cursors _ _ _).2 ⟨rfl, hopen j hj hrow⟩

/-- **What moves on leaves the rest as it is.** -/
theorem Scan.Moves.freezes {s t : Scan} (h : s.Moves t) : s.cursors.Freezes t.cursors := by
  rcases h with ⟨hclosed, hplace⟩ | hclosed
  · exact hplace.freezes hclosed
  -- every section is closed, and what is open stands behind all of them
  constructor
  · intro i sec hsec
    have hi : i < s.sections.length := (List.getElem?_eq_some_iff.1 hsec).1
    refine ⟨sec, ?_, fun _ => rfl, .refl _ sec⟩
    show (t.closed ++ _)[i]? = _
    rw [hclosed, List.getElem?_append_left hi]
    exact hsec
  · intro i hi hopen
    have hlast : t.closed.length = i := openSection_cursors hopen
    rw [hclosed] at hlast
    exact absurd hlast (Nat.ne_of_gt hi)
  · intro i j sec hsec _ hopen
    have hlast : t.closed.length = i := ((openRow_cursors _ _ _).1 hopen).1
    rw [hclosed] at hlast
    exact absurd hlast (Nat.ne_of_gt (List.getElem?_eq_some_iff.1 hsec).1)

/-- A line of some kind, whatever it ends in. -/
theorem freezes_take {o : Options} {s : Scan} (hs : s.IsFilledInOrder o) (kind : LineKind)
    (line : String) : s.cursors.Freezes (s.take o kind line).1.cursors :=
  (moves_take hs kind line).freezes

theorem freezes_step {o : Options} {s : Scan} (hs : s.IsFilledInOrder o) (line : String) :
    s.cursors.Freezes (s.step o line).1.cursors := by
  unfold Scan.step
  cases LineKind.ofLine? o.headingTag line with
  | none => exact .refl _
  | some kind => exact freezes_take hs kind line

/-- Any number of lines, read on behind errors. -/
theorem freezes_acts {o : Options} {s : Scan} (hs : s.IsFilledInOrder o) (lines : List String) :
    s.cursors.Freezes (s.acts o (lines.map .line)).cursors := by
  induction lines generalizing s with
  | nil => exact .refl _
  | cons line lines ih => exact (freezes_step hs line).trans (ih (hs.step line))

/-- **What is closed stays as it is.** Whatever has been asked of a fresh scan with cursors, one
more line, also one taken for a line of any kind and one that ends in an error, and any number of
lines leave every section that is not open and every row that is not open as they were and where
they were, the titles, and every note, name, phrase, type and description that is there. -/
theorem freezes_of_actions (o : Options) (actions : List Action) :
    ∃ c, Cursors.start.acts o actions = some c ∧
      (∀ line, ∃ d e, c.step o line = some (d, e) ∧ c.Freezes d) ∧
      (∀ kind line, ∃ d e, c.take o kind line = some (d, e) ∧ c.Freezes d) ∧
      ∀ lines : List String, ∃ d, c.acts o (lines.map .line) = some d ∧ c.Freezes d := by
  have hs : (Scan.start.acts o actions).IsFilledInOrder o :=
    (isFilledInOrder_start o).acts actions
  refine ⟨_, acts_cursors o Scan.start actions, ?_, ?_, ?_⟩
  · exact fun line => ⟨_, _, step_cursors o _ line, freezes_step hs line⟩
  · exact fun kind line => ⟨_, _, take_cursors o kind line _, freezes_take hs kind line⟩
  · exact fun lines => ⟨_, acts_cursors o _ (lines.map .line), freezes_acts hs lines⟩

end ApiBindings.Reference
