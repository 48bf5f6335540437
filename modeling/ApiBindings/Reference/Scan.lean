import ApiBindings.Markup.Report
import ApiBindings.Reference.Line
import ApiBindings.Reference.Section
import ApiBindings.Text.Quoted
import ApiBindings.TypeExpr.Phrase
/-!
# Scanning the reference page

One pass over the lines of the page collects its sections. A scan is outside of every section,
inside one, or inside a row of one; a line that has no meaning where it stands is passed over.
Headings whose text holds a dot or a space are narrative: they open no section and are only
counted.
-/

namespace ApiBindings.Reference

/-- How a page is read. -/
structure Options where
  headingTag : String := "h4"
  base : Option String := none
  aliases : List (String × String) := TypeExpr.baseAliases
  /-- How deep calls can be nested that read a phrase. -/
  depth : Nat := 980
  deriving Repr

/-! ## Places and scans -/

/-- Where a scan stands: the open section is without the open row. -/
inductive Place where
  | outside
  | inSection (s : Section)
  | inRow (s : Section) (row : Field)
  deriving DecidableEq, Repr

/-- The open section, with its open row. -/
def Place.section? : Place → Option Section
  | .outside => none
  | .inSection s => some s
  | .inRow s row => some { s with fields := s.fields ++ [row] }

/-- A scan: the sections that are closed, the place, and the number of narrative headings. -/
structure Scan where
  closed : List Section
  place : Place
  skipped : Nat
  deriving DecidableEq, Repr

/-- Nothing has been read. -/
def Scan.start : Scan := ⟨[], .outside, 0⟩

/-- All sections so far, the open one last. -/
def Scan.sections (s : Scan) : List Section := s.closed ++ s.place.section?.toList

/-- The scan outside of every section. -/
def Scan.leave (s : Scan) : Scan := { s with closed := s.sections, place := .outside }

/-! ## Lines -/

/-- A third cell that requires a field. -/
def requiredCell : String := "<td>Yes</td>"

/-- A third cell that lets a field be left out. -/
def optionalCell : String := "<td>Optional</td>"

/-- The text of a heading is narrative. -/
def isNarrative (title : String) : Bool := title.toList.any fun c => c == '.' || c == ' '

/-- A heading opens a section, unless it is narrative. -/
def Scan.heading (title : String) (s : Scan) : Scan :=
  if isNarrative title then { s with skipped := s.skipped + 1 }
  else { s with place := .inSection { title := some title } }

/-- The section with the text of a list item among its cases: it has to have a list, and the item to
be an identifier. -/
def Section.addCase (label : String) (s : Section) : Section :=
  match s.cases with
  | none => s
  | some cases =>
    if Naming.isIdentifier label then { s with cases := some (cases ++ [label]) } else s

/-- A row with the phrase of its type, which is there before the type is read from it: a phrase that
is too deep leaves the row with a phrase and no type. -/
def Field.fillType (o : Options) (phrase : String) (f : Field) : Field × Option Error :=
  let f := { f with phrase := some phrase }
  receive f (TypeExpr.read o.depth o.aliases phrase) fun type => { f with type := some type }

/-- A cell fills the first slot of a row that is empty: name, type, description. Instead of a
description it can say whether the field is required. -/
def Field.fill (o : Options) (line : String) (f : Field) : Field × Option Error :=
  match f.name, f.phrase, f.description with
  | none, _, _ => receive f (Markup.bareText line) fun name => { f with name := some name }
  | some _, none, _ =>
    match Markup.bareText line with
    | .ok phrase => f.fillType o phrase
    | .error e => (f, some e)
  | some _, some _, none =>
    if line = requiredCell then ({ f with requirement := .required }, none)
    else if line = optionalCell then ({ f with requirement := .optional }, none)
    else
      receive f (Markup.linkedText o.base line) fun text => { f with description := some text }
  | some _, some _, some _ => (f, none)

/-- The scan after a line of some kind, and the error that the line ends in, if it does. A heading
closes what is open before its text is read. -/
def Scan.take (o : Options) (kind : LineKind) (line : String) (s : Scan) : Scan × Option Error :=
  match kind, s.place with
  | .heading, _ =>
    let s := s.leave
    receive s (Markup.bareText line) fun title => s.heading title
  | .paragraph, .inSection sec =>
    if sec.note.isSome then (s, none)
    else
      receive s (Markup.linkedText o.base line) fun note =>
        { s with place := .inSection { sec with note := some note } }
  | .listOpen, .inSection sec =>
    ({ s with place := .inSection { sec with cases := some [] } }, none)
  | .listItem, .inSection sec =>
    if sec.cases.isNone then (s, none)
    else
      receive s (Markup.bareText line) fun label =>
        { s with place := .inSection (sec.addCase label) }
  | .rowOpen, .inSection sec => ({ s with place := .inRow sec {} }, none)
  | .rowOpen, .inRow sec row =>
    ({ s with place := .inRow { sec with fields := sec.fields ++ [row] } {} }, none)
  | .rowClose, .inRow sec row =>
    ({ s with place := .inSection { sec with fields := sec.fields ++ [row] } }, none)
  | .cell, .inRow sec row =>
    let (row, error) := row.fill o line
    ({ s with place := .inRow sec row }, error)
  | .tableClose, _ => (s.leave, none)
  | _, _ => (s, none)

/-- The scan after a line, and the error that the line ends in, if it does. -/
def Scan.step (o : Options) (s : Scan) (line : String) : Scan × Option Error :=
  match LineKind.ofLine? o.headingTag line with
  | none => (s, none)
  | some kind => s.take o kind line

/-! ## Pages -/

/-- The scan after several lines; at an error it stops where that leaves it. -/
def Scan.run (o : Options) : Scan → List String → Scan × Option Error
  | s, [] => (s, none)
  | s, line :: rest =>
    match s.step o line with
    | (t, none) => t.run o rest
    | (t, some e) => (t, some e)

/-- The lines of a page without the blanks around them. -/
def pageLines (text : String) : List String := (Text.lines text).map Text.trim

/-- The scan of a whole page. -/
def scan (o : Options) (text : String) : Except Error Scan :=
  match Scan.start.run o (pageLines text) with
  | (s, none) => .ok s
  | (_, some e) => .error e

/-! ## What is logged -/

/-- The records about the text of a line, if it has one. -/
def reportText (line : String) (about : String → List Log.Record) : List Log.Record :=
  Markup.report line ++ ((Markup.bareText line).toOption.map about).getD []

/-- The records about a line of some kind. -/
def Scan.reportLine (o : Options) (line : String) (s : Scan) : List Log.Record :=
  match LineKind.ofLine? o.headingTag line, s.place with
  | some .heading, _ =>
    reportText line fun title =>
      if isNarrative title then
        [Log.Part.scan.record Log.debug ("Skipping narrative heading: " ++ Text.quoted title)]
      else []
  | some .paragraph, .inSection sec => if sec.note.isSome then [] else Markup.report line
  | some .listItem, .inSection sec =>
    if sec.cases.isNone then []
    else
      reportText line fun label =>
        if Naming.isIdentifier label then []
        else
          [Log.Part.scan.record Log.debug
            (sec.title.getD "None" ++ ": dropping case list item " ++ Text.quoted label)]
  | some .cell, .inRow _ row =>
    match row.phrase, row.description with
    | some _, some _ => []
    | some _, none => if line = requiredCell || line = optionalCell then [] else Markup.report line
    | none, _ => Markup.report line
  | _, _ => []

/-- The records about several lines. -/
def Scan.reportLines (o : Options) : Scan → List String → List Log.Record
  | _, [] => []
  | s, line :: rest =>
    s.reportLine o line ++
      match s.step o line with
      | (t, none) => t.reportLines o rest
      | (_, some _) => []

/-- The records about a page that has been scanned. -/
def Scan.report (o : Options) (text : String) (s : Scan) : List Log.Record :=
  Scan.start.reportLines o (pageLines text) ++
    [Log.Part.scan.record Log.info
      ("Scanned " ++ toString s.sections.length ++ " sections (" ++ toString s.skipped ++
        " narrative headings skipped)")]

end ApiBindings.Reference
