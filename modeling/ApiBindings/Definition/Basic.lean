import ApiBindings.Reference.Section
/-!
# Definitions

What a section of the page defines: a record of fields, a choice between named cases, or an
operation with its parameters.
-/

namespace ApiBindings

open Reference (Field)

/-- A type with fields. -/
structure Record where
  title : String
  note : Option String := none
  fields : List Field := []
  deriving DecidableEq, Repr

/-- A choice between cases. -/
structure Union where
  name : String
  note : Option String := none
  cases : List String := []
  deriving DecidableEq, Repr

/-- A call with parameters. -/
structure Operation where
  title : String
  note : Option String := none
  fields : List Field := []
  deriving DecidableEq, Repr

/-- A record, a union or an operation. -/
inductive Definition where
  | record (r : Record)
  | union (u : Union)
  | operation (o : Operation)
  deriving DecidableEq, Repr

/-- The word for the kind of a definition. -/
def Definition.kind : Definition → String
  | .record _ => "record"
  | .union _ => "union"
  | .operation _ => "operation"

/-- The fields of a definition. -/
def Definition.fields : Definition → List Field
  | .record r => r.fields
  | .union _ => []
  | .operation o => o.fields

end ApiBindings
