import ApiBindings.Reference.Scan
import Mathlib.Data.List.DropRight
/-!
# The outline of a page

What a page says when it is read section by section and not line by line. The lines that matter are
cut at the headings. What belongs to a heading ends at the first line that closes a table; a row is
what stands between the line that opens it and the next one that opens or closes a row; the note
and the cases stand outside of the rows.

The outline is made of list operations alone and knows nothing of places.
-/

namespace ApiBindings.Reference

/-! ## Marks -/

/-- A line that matters, with its kind. -/
structure Mark where
  kind : LineKind
  line : String
  deriving DecidableEq, Repr

/-- The mark is of the kind `k`. -/
def Mark.is (k : LineKind) (m : Mark) : Bool := m.kind == k

/-- The marks of some lines where headings have the given tag. -/
def marks (headingTag : String) (lines : List String) : List Mark :=
  lines.filterMap fun line => (LineKind.ofLine? headingTag line).map (⟨·, line⟩)

/-- The lines of the marks of one kind. -/
def linesOf (k : LineKind) (ms : List Mark) : List String := (ms.filter (·.is k)).map (·.line)

/-! ## Parts of a page -/

/-- Each heading with the marks up to the next one. -/
def parts : List Mark → List (Mark × List Mark)
  | [] => []
  | m :: ms =>
    if m.is .heading then (m, ms.takeWhile (!·.is .heading)) :: parts ms else parts ms

/-- The marks before the first one that closes a table. -/
def body (ms : List Mark) : List Mark := ms.takeWhile (!·.is .tableClose)

/-! ## Rows -/

/-- The mark ends an open row. -/
def Mark.endsRow (m : Mark) : Bool := m.is .rowOpen || m.is .rowClose

/-- The cells at the beginning, up to the end of the row. -/
def cellsHere (ms : List Mark) : List String := linesOf .cell (ms.takeWhile (!·.endsRow))

/-- The cells of each row, in the order in which the rows are opened. -/
def rowCells : List Mark → List (List String)
  | [] => []
  | m :: ms => if m.is .rowOpen then cellsHere ms :: rowCells ms else rowCells ms

/-- The marks from the next one on that closes a row. -/
def behindRow (ms : List Mark) : List Mark := ms.dropWhile (!·.is .rowClose)

/-- The marks that no row holds: each row is cut out from the line that opens it up to the next line
that closes one. -/
def outsideRows : List Mark → List Mark
  | [] => []
  | m :: ms => if m.is .rowOpen then outsideRows (behindRow ms) else m :: outsideRows ms
termination_by ms => ms.length
decreasing_by
  · exact Nat.lt_succ_of_le (List.dropWhile_suffix _).length_le
  · exact Nat.lt_succ_self _

/-! ## Notes and cases -/

/-- The first paragraph outside of the rows. -/
def noteLine (ms : List Mark) : Option String := (linesOf .paragraph (outsideRows ms)).head?

/-- The items behind the last line that opens a list, if any line does. -/
def itemsOf (ms : List Mark) : Option (List String) :=
  if ms.any (·.is .listOpen) then some (linesOf .listItem (ms.rtakeWhile (!·.is .listOpen)))
  else none

/-- The items of the last list outside of the rows. -/
def itemLines (ms : List Mark) : Option (List String) := itemsOf (outsideRows ms)

/-! ## Reading the outline -/

/-- The cell says whether the field is required and nothing else. -/
def isSignal (cell : String) : Bool := cell == requiredCell || cell == optionalCell

/-- What a signal says. -/
def Requirement.ofSignal (cell : String) : Requirement :=
  if cell = requiredCell then .required else .optional

/-- What the cells in place of a description say about the field: the last signal before the
description counts. -/
def Requirement.ofCells (cells : List String) : Requirement :=
  ((cells.takeWhile isSignal).getLast?.map Requirement.ofSignal).getD .unstated

/-- The cell that describes the field: the first one that is no signal. -/
def descriptionCell (cells : List String) : Option String := cells.find? (!isSignal ·)

/-- The field with the given cells: its name, its type, then signals and the description. -/
def Field.ofCells (o : Options) (cells : List String) : Except Error Field := do
  let name ← cells[0]?.mapM Markup.bareText
  let phrase ← cells[1]?.mapM Markup.bareText
  let type ← phrase.mapM (TypeExpr.read o.depth o.aliases)
  let description ← (descriptionCell (cells.drop 2)).mapM (Markup.linkedText o.base)
  return {
    name, phrase, type, description
    requirement := Requirement.ofCells (cells.drop 2) }

/-- The labels of the items that are identifiers. -/
def labelsOf (items : List String) : Except Error (List String) :=
  (items.mapM Markup.bareText).map (·.filter Naming.isIdentifier)

/-- The section with the given title and marks. -/
def Section.ofMarks (o : Options) (title : String) (ms : List Mark) : Except Error Section := do
  let note ← (noteLine ms).mapM (Markup.linkedText o.base)
  let cases ← (itemLines ms).mapM labelsOf
  let fields ← (rowCells ms).mapM (Field.ofCells o)
  return { title := some title, note, fields, cases }

/-- The section of one part of a page; a narrative heading has none. -/
def Section.ofPart (o : Options) (part : Mark × List Mark) : Except Error (Option Section) := do
  let title ← Markup.bareText part.1.line
  if isNarrative title then return none
  else return some (← Section.ofMarks o title (body part.2))

/-- What the headings of a page open, each a section or, where it is narrative, nothing. -/
def Section.ofPage (o : Options) (lines : List String) : Except Error (List (Option Section)) :=
  (parts (marks o.headingTag lines)).mapM (Section.ofPart o)

end ApiBindings.Reference
