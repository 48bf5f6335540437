import ApiBindings.Definition.Basic
import ApiBindings.Error
/-!
# Written types

How a type expression is written in the generated modules. A union with fewer than two cases has no
class of its own: its lone case, or `None`, is written in its place.

The writer calls itself for each part of a type, and calls can only be nested so deep. `writeType`
is the writer with that limit, `type` the text of a type whatever its depth.
-/

namespace ApiBindings.Bindings

/-- The names that are written in place of others. -/
structure Names where
  /-- What stands for a union without a class. -/
  substitutions : List (String × String) := []
  /-- How scalars are written. -/
  scalars : List (String × String) := []
  deriving Repr

/-! ## Substitutions -/

/-- What is written for a union without a case. -/
def voidType : String := "None"

/-- A union with at least two cases has a class. -/
def hasClass (u : Union) : Bool := 2 ≤ u.cases.length

/-- What is written in place of a union without a class. -/
def standIn (u : Union) : String := u.cases.headD voidType

/-- The substitutions for a list of definitions; of several for one name the last counts. -/
def substitutionsFor (ds : List Definition) : List (String × String) :=
  ds.foldl (fun known d =>
    match d with
    | .union u =>
      if hasClass u then known else (u.name, standIn u) :: known.filter (·.1 != u.name)
    | _ => known) []

/-! ## Types -/

/-- The written form of a scalar. -/
def Names.scalar (n : Names) (name : String) : String :=
  let name := (n.substitutions.lookup name).getD name
  (n.scalars.lookup name).getD name

/-- The written form of a type. -/
def Names.type (n : Names) : TypeExpr → String
  | .scalar name => n.scalar name
  | .list item => "list[" ++ n.type item ++ "]"
  | .sum left right => "Either[" ++ n.type left ++ ", " ++ n.type right ++ "]"

/-- The written type of a field. A field without a type is not complete, and an error where code is
made of it: it is left out before, and its empty text only makes the function total. -/
def Names.fieldType (n : Names) (f : Reference.Field) : String :=
  let type := (f.type.map n.type).getD ""
  if f.isOptional then "Optional[" ++ type ++ "]" else type

/-! ## Types that are not too deep -/

/-- The text that is written for a type where there is room for so many calls within one another:
one for the type, and within it those for its parts. -/
def Names.writeType (n : Names) : Nat → TypeExpr → Except Error String
  | 0, _ => .error .deepNesting
  | _ + 1, .scalar name => .ok (n.scalar name)
  | room + 1, .list item => (n.writeType room item).map fun item => "list[" ++ item ++ "]"
  | room + 1, .sum left right => do
    let left ← n.writeType room left
    let right ← n.writeType room right
    return "Either[" ++ left ++ ", " ++ right ++ "]"

/-- The text that is written for the type of a field where there is that room. -/
def Names.writeFieldType (n : Names) (room : Nat) (f : Reference.Field) : Except Error String :=
  (f.type.mapM (n.writeType room)).map fun type =>
    let type := type.getD ""
    if f.isOptional then "Optional[" ++ type ++ "]" else type

end ApiBindings.Bindings
