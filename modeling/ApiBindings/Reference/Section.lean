import ApiBindings.Naming.CamelCase
import ApiBindings.Naming.Identifier
import ApiBindings.Text.Affix
import ApiBindings.TypeExpr.Basic
/-!
# Sections of the reference page

What the page says between one heading and the next: a title, a note, a list of cases and the rows
of a table, each row a field.
-/

namespace ApiBindings.Reference

/-! ## Fields -/

/-- What the third cell of a row says about the field being required. -/
inductive Requirement where
  | required
  | optional
  | unstated
  deriving DecidableEq, Repr

/-- One row of a table, as far as its cells have been seen. -/
structure Field where
  name : Option String := none
  phrase : Option String := none
  type : Option TypeExpr := none
  description : Option String := none
  requirement : Requirement := .unstated
  deriving DecidableEq, Repr

/-- A field can be used if it has a type and a name that camel case makes an identifier. -/
def Field.isComplete (f : Field) : Bool :=
  match f.name with
  | none => false
  | some name =>
    !name.isEmpty && Naming.isIdentifier (Naming.camelCase name) && f.type.isSome

/-- A field may be left out if its cell says so, or says nothing and its description begins with
`Optional` or is missing. -/
def Field.isOptional (f : Field) : Bool :=
  match f.requirement, f.description with
  | .required, _ => false
  | .optional, _ => true
  | .unstated, some description => Text.startsWith description "Optional"
  | .unstated, none => true

/-! ## Sections -/

/-- A section of the page; it has cases only if it has a list. -/
structure Section where
  title : Option String := none
  note : Option String := none
  fields : List Field := []
  cases : Option (List String) := none
  deriving DecidableEq, Repr

end ApiBindings.Reference
