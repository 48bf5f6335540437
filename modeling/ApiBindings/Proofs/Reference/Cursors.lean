import ApiBindings.Proofs.Reference.DeepCells
import Mathlib.Data.List.Basic
/-!
# Scanning with cursors

The same pass told apart into its registers: a mode, all sections so far, and two cursors that are
moved and cleared one by one, the first to a section, the second to a row of a section. Nothing in
the type of such a state ties mode and cursors together, and a line that needs a cursor that is not
set, or that points nowhere, has no outcome at all.

Main statements: the registers follow a scan line by line (`take_cursors`), its mode and cursors
agree (`isConsistent_cursors`), a line opens an empty row or fills one cell of a row and does
nothing else to the rows (`mem_rows_take`), and so all of this holds whatever is asked of a fresh
scan (`cursors_of_actions`). A row has a phrase without a type where the phrase is too deep, and
only there.
-/

namespace ApiBindings.Reference

/-! ## Registers -/

/-- What a scan takes the next line for. -/
inductive Mode where
  | idle
  | inTable
  | inRow
  deriving DecidableEq, Repr

/-- The registers of a scan with cursors. -/
structure Cursors where
  mode : Mode
  sections : List Section
  skipped : Nat
  /-- The place of the open section among the sections. -/
  openSection : Option Nat
  /-- The place of the section of the open row, and of the row among its rows. -/
  openRow : Option (Nat × Nat)
  deriving DecidableEq, Repr

namespace Cursors

/-- Nothing has been read. -/
def start : Cursors := ⟨.idle, [], 0, none, none⟩

/-- Both cursors are cleared. -/
def clear (c : Cursors) : Cursors := { c with mode := .idle, openSection := none, openRow := none }

/-- What the section cursor points to. -/
def section? (c : Cursors) : Option Section := c.openSection.bind (c.sections[·]?)

/-- What the row cursor points to. -/
def row? (c : Cursors) : Option Field :=
  c.openRow.bind fun (i, j) => c.sections[i]?.bind (·.fields[j]?)

/-- The section that the cursor points to is written anew. -/
def setSection (sec : Section) (c : Cursors) : Cursors :=
  match c.openSection with
  | none => c
  | some i => { c with sections := c.sections.set i sec }

/-- The row that the cursor points to is written anew. -/
def setRow (row : Field) (c : Cursors) : Cursors :=
  match c.openRow with
  | none => c
  | some (i, j) =>
    match c.sections[i]? with
    | none => c
    | some sec =>
      { c with sections := c.sections.set i { sec with fields := sec.fields.set j row } }

/-! ## Lines -/

/-- A new section at the end, with the cursor on it; a narrative heading is only counted. -/
def heading (title : String) (c : Cursors) : Cursors :=
  if isNarrative title then { c with skipped := c.skipped + 1 }
  else
    { c with
      mode := .inTable
      sections := c.sections ++ [{ title := some title }]
      openSection := some c.sections.length }

/-- A new row at the end of the open section, with the cursor on it. -/
def addRow (c : Cursors) : Option Cursors := do
  let i ← c.openSection
  let sec ← c.sections[i]?
  return { c with
    mode := .inRow
    sections := c.sections.set i { sec with fields := sec.fields ++ [{}] }
    openRow := some (i, sec.fields.length) }

/-- The registers after a line of some kind, and the error that the line ends in, if it does. There
is no outcome where a cursor is needed that points nowhere. -/
def take (o : Options) (kind : LineKind) (line : String) (c : Cursors) :
    Option (Cursors × Option Error) :=
  match kind with
  | .heading =>
    let c := c.clear
    some (receive c (Markup.bareText line) fun title => c.heading title)
  | .paragraph =>
    if c.mode = .inTable then
      c.section?.map fun sec =>
        if sec.note.isSome then (c, none)
        else
          receive c (Markup.linkedText o.base line) fun note =>
            c.setSection { sec with note := some note }
    else some (c, none)
  | .listOpen =>
    if c.mode = .inTable then
      c.section?.map fun sec => (c.setSection { sec with cases := some [] }, none)
    else some (c, none)
  | .listItem =>
    if c.mode = .inTable then
      c.section?.map fun sec =>
        if sec.cases.isNone then (c, none)
        else receive c (Markup.bareText line) fun label => c.setSection (sec.addCase label)
    else some (c, none)
  | .rowOpen => if c.mode = .idle then some (c, none) else c.addRow.map fun d => (d, none)
  | .rowClose =>
    if c.mode = .inRow then some ({ c with mode := .inTable, openRow := none }, none)
    else some (c, none)
  | .cell =>
    if c.mode = .inRow then
      c.row?.map fun row =>
        let (row, error) := row.fill o line
        (c.setRow row, error)
    else some (c, none)
  | .tableClose => some (c.clear, none)

/-- The registers after a line, and the error that the line ends in, if it does. -/
def step (o : Options) (c : Cursors) (line : String) : Option (Cursors × Option Error) :=
  match LineKind.ofLine? o.headingTag line with
  | none => some (c, none)
  | some kind => c.take o kind line

/-- The registers after several lines, up to the first error. -/
def run (o : Options) : Cursors → List String → Option (Cursors × Option Error)
  | c, [] => some (c, none)
  | c, line :: rest =>
    match c.step o line with
    | some (d, none) => d.run o rest
    | outcome => outcome

end Cursors

/-! ## Steps -/

/-- What can be asked of a scan: to read one line, to take a line for one of some kind, whatever it
looks like, or to read a page from the beginning. -/
inductive Action where
  | line (line : String)
  | mark (kind : LineKind) (line : String)
  | page (text : String)
  deriving DecidableEq, Repr

/-- The scan after an action, also where that ends in an error. -/
def Scan.act (o : Options) (s : Scan) : Action → Scan
  | .line line => (s.step o line).1
  | .mark kind line => (s.take o kind line).1
  | .page text => (Scan.start.run o (pageLines text)).1

/-- The scan after several actions. -/
def Scan.acts (o : Options) (s : Scan) (actions : List Action) : Scan :=
  actions.foldl (Scan.act o) s

/-- The registers after an action, also where that ends in an error. -/
def Cursors.act (o : Options) (c : Cursors) : Action → Option Cursors
  | .line line => (c.step o line).map (·.1)
  | .mark kind line => (c.take o kind line).map (·.1)
  | .page text => (Cursors.start.run o (pageLines text)).map (·.1)

/-- The registers after several actions. -/
def Cursors.acts (o : Options) (c : Cursors) (actions : List Action) : Option Cursors :=
  actions.foldlM (Cursors.act o) c

/-! ## The registers of a scan -/

/-- What a place is taken for. -/
def Place.mode : Place → Mode
  | .outside => .idle
  | .inSection _ => .inTable
  | .inRow _ _ => .inRow

/-- The registers of a scan: the open section is the one behind all closed ones, the open row the
one behind all rows of that section. -/
def Scan.cursors (s : Scan) : Cursors where
  mode := s.place.mode
  sections := s.sections
  skipped := s.skipped
  openSection := s.place.section?.map fun _ => s.closed.length
  openRow := match s.place with
    | .inRow sec _ => some (s.closed.length, sec.fields.length)
    | _ => none

theorem cursors_start : Scan.start.cursors = Cursors.start := rfl

/-- Leaving a section clears the cursors. -/
theorem cursors_leave (s : Scan) : s.leave.cursors = s.cursors.clear := by
  obtain ⟨closed, place, skipped⟩ := s
  cases place <;>
    simp [Scan.leave, Scan.cursors, Cursors.clear, Place.mode, Scan.sections, Place.section?]

/-- The section cursor of a scan points to its open section. -/
theorem section?_cursors (s : Scan) : s.cursors.section? = s.place.section? := by
  obtain ⟨closed, place, skipped⟩ := s
  cases place <;> simp [Scan.cursors, Cursors.section?, Scan.sections, Place.section?]

/-- The row cursor of a scan points to its open row. -/
theorem row?_cursors (closed : List Section) (sec : Section) (row : Field) (skipped : Nat) :
    (Scan.mk closed (.inRow sec row) skipped).cursors.row? = some row := by
  simp [Scan.cursors, Cursors.row?, Scan.sections, Place.section?]

/-- Writing the open section anew through the cursor. -/
theorem setSection_cursors (closed : List Section) (sec t : Section) (skipped : Nat) :
    (Scan.mk closed (.inSection sec) skipped).cursors.setSection t =
      (Scan.mk closed (.inSection t) skipped).cursors := by
  simp [Scan.cursors, Cursors.setSection, Scan.sections, Place.section?, Place.mode]

/-- Writing the open row anew through the cursor. -/
theorem setRow_cursors (closed : List Section) (sec : Section) (row row' : Field) (skipped : Nat) :
    (Scan.mk closed (.inRow sec row) skipped).cursors.setRow row' =
      (Scan.mk closed (.inRow sec row') skipped).cursors := by
  simp [Scan.cursors, Cursors.setRow, Scan.sections, Place.section?, Place.mode]

/-- Opening the first row of a section through the cursor. -/
theorem addRow_cursors_inSection (closed : List Section) (sec : Section) (skipped : Nat) :
    (Scan.mk closed (.inSection sec) skipped).cursors.addRow =
      some (Scan.mk closed (.inRow sec {}) skipped).cursors := by
  simp [Scan.cursors, Cursors.addRow, Scan.sections, Place.section?, Place.mode]

/-- Opening another row through the cursor leaves the row before it where it stands. -/
theorem addRow_cursors_inRow (closed : List Section) (sec : Section) (row : Field)
    (skipped : Nat) :
    (Scan.mk closed (.inRow sec row) skipped).cursors.addRow =
      some (Scan.mk closed (.inRow { sec with fields := sec.fields ++ [row] } {}) skipped).cursors
      := by
  simp [Scan.cursors, Cursors.addRow, Scan.sections, Place.section?, Place.mode]

/-- What is received by the scan is received by its registers. -/
theorem receive_cursors {α : Type} (read : Except Error α) (put : α → Scan) (s : Scan)
    {put' : α → Cursors} (hput : ∀ a, put' a = (put a).cursors) :
    receive s.cursors read put' = ((receive s read put).1.cursors, (receive s read put).2) := by
  cases read with
  | error e => rfl
  | ok a => exact congrArg (fun c => (c, none)) (hput a)

/-! ## Simulation -/

/-- **The registers follow the scan**: from the registers of a scan each kind of line has an
outcome, the registers of the scan behind the line, and ends in the same error. -/
theorem take_cursors (o : Options) (kind : LineKind) (line : String) (s : Scan) :
    s.cursors.take o kind line = some ((s.take o kind line).1.cursors, (s.take o kind line).2) := by
  obtain ⟨closed, place, skipped⟩ := s
  -- the eight kinds in the three places; where a cursor is needed, what it points to is known
  cases kind with
  | heading =>
    show some (receive (Cursors.clear _) _ _) = _
    rw [← cursors_leave]
    refine congrArg some (receive_cursors _ _ _ fun title => ?_)
    unfold Cursors.heading Scan.heading
    split
    · rfl
    · simp [Scan.leave, Scan.cursors, Scan.sections, Place.section?, Place.mode]
  | tableClose => exact congrArg (fun c => some (c, none)) (cursors_leave _).symm
  | paragraph =>
    cases place with
    | inSection sec =>
      show Option.map _ (Cursors.section? _) = _
      rw [section?_cursors]
      refine congrArg some ?_
      unfold Scan.take
      dsimp only
      split
      · rfl
      · refine receive_cursors _ _ _ fun note => ?_
        exact setSection_cursors closed sec _ skipped
    | outside => rfl
    | inRow sec row => rfl
  | listOpen =>
    cases place with
    | inSection sec =>
      show Option.map _ (Cursors.section? _) = _
      rw [section?_cursors]
      exact congrArg (fun c => some (c, none)) (setSection_cursors closed sec _ skipped)
    | outside => rfl
    | inRow sec row => rfl
  | listItem =>
    cases place with
    | inSection sec =>
      show Option.map _ (Cursors.section? _) = _
      rw [section?_cursors]
      refine congrArg some ?_
      unfold Scan.take
      dsimp only
      split
      · rfl
      · refine receive_cursors _ _ _ fun label => ?_
        exact setSection_cursors closed sec _ skipped
    | outside => rfl
    | inRow sec row => rfl
  | rowOpen =>
    cases place with
    | outside => rfl
    | inSection sec =>
      show Option.map _ (Cursors.addRow _) = _
      rw [addRow_cursors_inSection]
      rfl
    | inRow sec row =>
      show Option.map _ (Cursors.addRow _) = _
      rw [addRow_cursors_inRow]
      rfl
  | rowClose =>
    cases place with
    | outside => rfl
    | inSection sec => rfl
    | inRow sec row => rfl
  | cell =>
    cases place with
    | inRow sec row =>
      show Option.map _ (Cursors.row? _) = _
      rw [row?_cursors]
      exact congrArg (fun c => some (c, (row.fill o line).2))
        (setRow_cursors closed sec row (row.fill o line).1 skipped)
    | outside => rfl
    | inSection sec => rfl

theorem step_cursors (o : Options) (s : Scan) (line : String) :
    s.cursors.step o line = some ((s.step o line).1.cursors, (s.step o line).2) := by
  unfold Cursors.step Scan.step
  cases LineKind.ofLine? o.headingTag line with
  | none => rfl
  | some kind => exact take_cursors o kind line s

theorem run_cursors (o : Options) (s : Scan) (lines : List String) :
    s.cursors.run o lines = some ((s.run o lines).1.cursors, (s.run o lines).2) := by
  induction lines generalizing s with
  | nil => rfl
  | cons line lines ih =>
    rw [Cursors.run, Scan.run, step_cursors]
    obtain ⟨t, e⟩ := s.step o line
    cases e with
    | none => exact ih t
    | some e => rfl

theorem act_cursors (o : Options) (s : Scan) (action : Action) :
    s.cursors.act o action = some (s.act o action).cursors := by
  cases action with
  | line line =>
    show (s.cursors.step o line).map (·.1) = _
    rw [step_cursors]
    rfl
  | mark kind line =>
    show (s.cursors.take o kind line).map (·.1) = _
    rw [take_cursors]
    rfl
  | page text =>
    show (Cursors.start.run o (pageLines text)).map (·.1) = _
    rw [← cursors_start, run_cursors]
    rfl

theorem acts_cursors (o : Options) (s : Scan) (actions : List Action) :
    s.cursors.acts o actions = some (s.acts o actions).cursors := by
  induction actions generalizing s with
  | nil => rfl
  | cons action actions ih =>
    unfold Cursors.acts
    rw [List.foldlM_cons, act_cursors]
    exact ih (s.act o action)

/-! ## Mode and cursors -/

/-- Mode and cursors agree, and the cursors point to what was opened last. -/
structure Cursors.IsConsistent (c : Cursors) : Prop where
  idle_iff : c.mode = .idle ↔ c.openSection = none
  inRow_iff : c.mode = .inRow ↔ c.openRow.isSome
  section_last : ∀ i, c.openSection = some i → i + 1 = c.sections.length
  row_last : ∀ i j, c.openRow = some (i, j) →
    c.openSection = some i ∧ ∃ sec, c.sections[i]? = some sec ∧ j + 1 = sec.fields.length

/-- **The registers of a scan are consistent.** -/
theorem isConsistent_cursors (s : Scan) : s.cursors.IsConsistent := by
  obtain ⟨closed, place, skipped⟩ := s
  cases place with
  | outside => constructor <;> simp [Scan.cursors, Place.mode, Place.section?]
  | inSection sec =>
    constructor <;> simp [Scan.cursors, Place.mode, Place.section?, Scan.sections]
  | inRow sec row =>
    constructor <;> simp [Scan.cursors, Place.mode, Place.section?, Scan.sections]

/-! ## Rows -/

/-- A row is filled from left to right: it has no phrase without a name, and no description and no
signal without a phrase. Its type is what its phrase says, and it has none where the phrase has more
levels than there is room for. -/
structure Field.IsFilledInOrder (o : Options) (f : Field) : Prop where
  name_of_phrase : f.phrase.isSome → f.name.isSome
  phrase_of_description : f.description.isSome → f.phrase.isSome
  phrase_of_requirement : f.requirement ≠ .unstated → f.phrase.isSome
  type_eq : f.type = f.phrase.bind fun phrase =>
    if TypeExpr.levels o.aliases phrase.toList ≤ o.depth then
      some (TypeExpr.ofPhrase o.aliases phrase)
    else none

theorem isFilledInOrder_new (o : Options) : Field.IsFilledInOrder o {} := by
  constructor <;> simp

/-- A row without a type that is given the phrase of one. -/
theorem fst_fillType (o : Options) (phrase : String) {f : Field} (h : f.type = none) :
    (f.fillType o phrase).1 =
      { f with
        phrase := some phrase
        type :=
          if TypeExpr.levels o.aliases phrase.toList ≤ o.depth then
            some (TypeExpr.ofPhrase o.aliases phrase)
          else none } := by
  unfold Field.fillType
  rw [TypeExpr.read_eq]
  split
  · rfl
  · rw [← h]
    rfl

/-- **All that a cell can do to a row**: fill the first slot that is empty, or say whether the field
is required, or nothing. -/
theorem eq_of_fill {o : Options} {line : String} {f g : Field} (h : (f.fill o line).1 = g) :
    (f.name = none ∧ ∃ name, g = { f with name := some name }) ∨
    (f.name.isSome ∧ f.phrase = none ∧ ∃ phrase, g = (f.fillType o phrase).1) ∨
    (f.name.isSome ∧ f.phrase.isSome ∧ f.description = none ∧
      ((∃ requirement, g = { f with requirement }) ∨
        ∃ text, g = { f with description := some text })) ∨
    g = f := by
  obtain ⟨name, phrase, type, description, requirement⟩ := f
  unfold Field.fill at h
  cases name with
  | none =>
    dsimp only at h
    cases hread : Markup.bareText line with
    | error e =>
      rw [hread] at h
      exact Or.inr (Or.inr (Or.inr h.symm))
    | ok text =>
      rw [hread] at h
      exact Or.inl ⟨rfl, text, h.symm⟩
  | some name =>
    cases phrase with
    | none =>
      dsimp only at h
      cases hread : Markup.bareText line with
      | error e =>
        rw [hread] at h
        exact Or.inr (Or.inr (Or.inr h.symm))
      | ok text =>
        rw [hread] at h
        exact Or.inr (Or.inl ⟨rfl, rfl, text, h.symm⟩)
    | some phrase =>
      cases description with
      | some description => exact Or.inr (Or.inr (Or.inr h.symm))
      | none =>
        dsimp only at h
        split at h
        · exact Or.inr (Or.inr (Or.inl ⟨rfl, rfl, rfl, Or.inl ⟨.required, h.symm⟩⟩))
        · split at h
          · exact Or.inr (Or.inr (Or.inl ⟨rfl, rfl, rfl, Or.inl ⟨.optional, h.symm⟩⟩))
          · cases hread : Markup.linkedText o.base line with
            | error e =>
              rw [hread] at h
              exact Or.inr (Or.inr (Or.inr h.symm))
            | ok text =>
              rw [hread] at h
              exact Or.inr (Or.inr (Or.inl ⟨rfl, rfl, rfl, Or.inr ⟨text, h.symm⟩⟩))

/-- **A cell keeps the order in which a row is filled**, also where it cannot be read. -/
theorem Field.IsFilledInOrder.fill {o : Options} {f : Field} (hf : f.IsFilledInOrder o)
    (line : String) : (f.fill o line).1.IsFilledInOrder o := by
  generalize h : (f.fill o line).1 = g
  rcases eq_of_fill h with ⟨-, name, rfl⟩ | ⟨hname, hphrase, phrase, rfl⟩ |
    ⟨-, hphrase, -, ⟨requirement, rfl⟩ | ⟨text, rfl⟩⟩ | rfl
  · exact ⟨fun _ => rfl, hf.phrase_of_description, hf.phrase_of_requirement, hf.type_eq⟩
  · have htype : f.type = none := by rw [hf.type_eq, hphrase, Option.bind_none]
    rw [fst_fillType o phrase htype]
    exact ⟨fun _ => hname, fun _ => rfl, fun _ => rfl, rfl⟩
  · exact ⟨hf.name_of_phrase, hf.phrase_of_description, fun _ => hphrase, hf.type_eq⟩
  · exact ⟨hf.name_of_phrase, fun _ => hphrase, hf.phrase_of_requirement, hf.type_eq⟩
  · exact hf

/-- The rows of all sections. -/
def Scan.rows (s : Scan) : List Field := s.sections.flatMap (·.fields)

/-- What is received has its rows from what is put in, or they are the rows there were. -/
theorem mem_rows_receive {α : Type} {read : Except Error α} {put : α → Scan} {s : Scan} {f : Field}
    (h : f ∈ (receive s read put).1.rows) :
    f ∈ s.rows ∨ ∃ a, read = .ok a ∧ f ∈ (put a).rows := by
  cases read with
  | error e => exact Or.inl h
  | ok a => exact Or.inr ⟨a, rfl, h⟩

/-- **All that a line can do to the rows**: open an empty one or fill one cell of one of them. -/
theorem mem_rows_take {o : Options} {kind : LineKind} {line : String} {s : Scan} {f : Field}
    (h : f ∈ (s.take o kind line).1.rows) :
    f ∈ s.rows ∨ f = {} ∨ ∃ g ∈ s.rows, (g.fill o line).1 = f := by
  obtain ⟨closed, place, skipped⟩ := s
  have hleave :
      (Scan.mk closed place skipped).leave.rows = (Scan.mk closed place skipped).rows := by
    simp [Scan.rows, Scan.leave, Scan.sections, Place.section?]
  cases kind with
  | heading =>
    rcases mem_rows_receive h with h | ⟨title, -, h⟩
    · exact Or.inl (hleave ▸ h)
    · -- a new section has no rows
      left
      unfold Scan.heading at h
      split at h
      · exact hleave ▸ h
      · rw [← hleave]
        simpa [Scan.rows, Scan.sections, Scan.leave, Place.section?] using h
  | tableClose => exact Or.inl (hleave ▸ h)
  | paragraph =>
    left
    cases place with
    | inSection sec =>
      unfold Scan.take at h
      dsimp only at h
      split at h
      · exact h
      · rcases mem_rows_receive h with h | ⟨note, -, h⟩
        · exact h
        · simpa [Scan.rows, Scan.sections, Place.section?] using h
    | outside => exact h
    | inRow sec row => exact h
  | listOpen =>
    left
    cases place with
    | inSection sec => simpa [Scan.take, Scan.rows, Scan.sections, Place.section?] using h
    | outside => exact h
    | inRow sec row => exact h
  | listItem =>
    left
    cases place with
    | inSection sec =>
      unfold Scan.take at h
      dsimp only at h
      split at h
      · exact h
      · rcases mem_rows_receive h with h | ⟨label, -, h⟩
        · exact h
        · have hfields : (sec.addCase label).fields = sec.fields := by
            unfold Section.addCase
            split
            · rfl
            · split <;> rfl
          simpa [Scan.rows, Scan.sections, Place.section?, hfields] using h
    | outside => exact h
    | inRow sec row => exact h
  | rowOpen =>
    cases place with
    | outside => exact Or.inl h
    | inSection sec =>
      have hmem : f ∈ (Scan.mk closed (.inSection sec) skipped).rows ∨ f = {} := by
        simpa [Scan.take, Scan.rows, Scan.sections, Place.section?, or_assoc] using h
      exact hmem.imp_right Or.inl
    | inRow sec row =>
      have hmem : f ∈ (Scan.mk closed (.inRow sec row) skipped).rows ∨ f = {} := by
        simpa [Scan.take, Scan.rows, Scan.sections, Place.section?, or_assoc] using h
      exact hmem.imp_right Or.inl
  | rowClose =>
    left
    cases place with
    | outside => exact h
    | inSection sec => exact h
    | inRow sec row => simpa [Scan.take, Scan.rows, Scan.sections, Place.section?] using h
  | cell =>
    cases place with
    | outside => exact Or.inl h
    | inSection sec => exact Or.inl h
    | inRow sec row =>
      have hrows : ∀ row, (Scan.mk closed (.inRow sec row) skipped).rows =
          (Scan.mk closed (.inSection sec) skipped).rows ++ [row] := by
        intro row
        simp [Scan.rows, Scan.sections, Place.section?]
      have hmem : f ∈ (Scan.mk closed (.inRow sec (row.fill o line).1) skipped).rows := h
      rw [hrows] at hmem
      rw [hrows]
      rcases List.mem_append.1 hmem with hmem | hmem
      · exact Or.inl (List.mem_append_left _ hmem)
      · refine Or.inr (Or.inr ⟨row, List.mem_append_right _ (List.mem_singleton_self row), ?_⟩)
        exact (List.mem_singleton.1 hmem).symm

/-- All rows of a scan are filled in order. -/
def Scan.IsFilledInOrder (o : Options) (s : Scan) : Prop := ∀ f ∈ s.rows, f.IsFilledInOrder o

theorem isFilledInOrder_start (o : Options) : Scan.start.IsFilledInOrder o := by
  simp [Scan.IsFilledInOrder, Scan.rows, Scan.start, Scan.sections, Place.section?]

theorem Scan.IsFilledInOrder.take {o : Options} {s : Scan} (hs : s.IsFilledInOrder o)
    (kind : LineKind) (line : String) : (s.take o kind line).1.IsFilledInOrder o := by
  intro f hf
  rcases mem_rows_take hf with hf | rfl | ⟨g, hg, rfl⟩
  · exact hs f hf
  · exact isFilledInOrder_new o
  · exact (hs g hg).fill line

theorem Scan.IsFilledInOrder.step {o : Options} {s : Scan} (hs : s.IsFilledInOrder o)
    (line : String) : (s.step o line).1.IsFilledInOrder o := by
  unfold Scan.step
  cases LineKind.ofLine? o.headingTag line with
  | none => exact hs
  | some kind => exact hs.take kind line

theorem Scan.IsFilledInOrder.run {o : Options} {s : Scan} (hs : s.IsFilledInOrder o)
    (lines : List String) : (s.run o lines).1.IsFilledInOrder o := by
  induction lines generalizing s with
  | nil => exact hs
  | cons line lines ih =>
    have hstep := hs.step line
    rw [Scan.run]
    generalize s.step o line = outcome at hstep ⊢
    obtain ⟨t, e⟩ := outcome
    cases e with
    | none => exact ih hstep
    | some e => exact hstep

theorem Scan.IsFilledInOrder.act {o : Options} {s : Scan} (hs : s.IsFilledInOrder o)
    (action : Action) : (s.act o action).IsFilledInOrder o := by
  cases action with
  | line line => exact hs.step line
  | mark kind line => exact hs.take kind line
  | page text => exact (isFilledInOrder_start o).run (pageLines text)

theorem Scan.IsFilledInOrder.acts {o : Options} {s : Scan} (hs : s.IsFilledInOrder o)
    (actions : List Action) : (s.acts o actions).IsFilledInOrder o := by
  induction actions generalizing s with
  | nil => exact hs
  | cons action actions ih => exact ih (hs.act action)

/-- A heading, a row, the name of a field, and the cell with its type. -/
def userRowActions (cell : String) : List Action :=
  [.line "<h4>User</h4>", .line "<tr>", .line "<td>a</td>", .line cell]

/-- The row has the phrase of a type that is too deep, and no type. -/
theorem acts_deepCell {n : Nat} (hn : 980 ≤ n) :
    Scan.start.acts {} (userRowActions (deepCell n)) = ⟨[], .inRow { title := some "User" }
      { name := some "a", phrase := some (String.ofList (deepPhrase n)) }, 0⟩ := by
  have hopened : Scan.start.acts {} [.line "<h4>User</h4>", .line "<tr>", .line "<td>a</td>"] =
      ⟨[], .inRow { title := some "User" } { name := some "a" }, 0⟩ := by decide +kernel
  have hcell := step_deepCell (o := {}) rfl TypeExpr.lookup_baseAliases_listWords hn []
    { title := some "User" } "a" 0
  show (Scan.step {} (Scan.start.acts {} [.line "<h4>User</h4>", .line "<tr>",
    .line "<td>a</td>"]) (deepCell n)).1 = _
  rw [hopened, hcell]

end ApiBindings.Reference
