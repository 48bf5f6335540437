import ApiBindings.Bindings.Module
/-!
# Names in written types

A type is written leaf by leaf: how a scalar is written says all about how a type is written that
it occurs in, and the code of a definition knows names in no other way. Main statements: a type is
written like the type with the written names in place of its scalars, each of them as it is
(`type_eq_verbatim`), and so are the types in the code of records and operations
(`recordCode_eq_verbatim`, `operationCode_eq_verbatim`).
-/

namespace ApiBindings

open Reference (Field)

/-! ## Leaves -/

/-- The type with other names for its scalars. -/
def TypeExpr.rename (f : String → String) : TypeExpr → TypeExpr
  | .scalar name => .scalar (f name)
  | .list item => .list (item.rename f)
  | .sum left right => .sum (left.rename f) (right.rename f)

/-- The names of the scalars of a type, from left to right. -/
def TypeExpr.leaves : TypeExpr → List String
  | .scalar name => [name]
  | .list item => item.leaves
  | .sum left right => left.leaves ++ right.leaves

theorem TypeExpr.leaves_rename (f : String → String) (t : TypeExpr) :
    (t.rename f).leaves = t.leaves.map f := by
  induction t with
  | scalar name => rfl
  | list item ih => exact ih
  | sum left right ihl ihr => simp only [rename, leaves, ihl, ihr, List.map_append]

/-- The field with other names for the scalars of its type. -/
def Reference.Field.rename (f : String → String) (field : Field) : Field :=
  { field with type := field.type.map (·.rename f) }

/-- The record with other names for the scalars of its types. -/
def Record.rename (f : String → String) (r : Record) : Record :=
  { r with fields := r.fields.map (·.rename f) }

/-- The operation with other names for the scalars of its types. -/
def Operation.rename (f : String → String) (o : Operation) : Operation :=
  { o with fields := o.fields.map (·.rename f) }

namespace Bindings

/-! ## Written types -/

/-- Every name is written as it is. -/
def verbatim : Names := {}

/-- **A type is written leaf by leaf.** -/
theorem type_eq_verbatim (n : Names) (t : TypeExpr) :
    n.type t = verbatim.type (t.rename n.scalar) := by
  induction t with
  | scalar name => rfl
  | list item ih => rw [Names.type, TypeExpr.rename, Names.type, ih]
  | sum left right ihl ihr => rw [Names.type, TypeExpr.rename, Names.type, ihl, ihr]

theorem fieldType_eq_verbatim (n : Names) (f : Field) :
    n.fieldType f = verbatim.fieldType (f.rename n.scalar) := by
  have htype : f.type.map n.type = (f.rename n.scalar).type.map verbatim.type := by
    unfold Field.rename
    rw [Option.map_map]
    congr 1
    funext t
    exact type_eq_verbatim n t
  unfold Names.fieldType
  rw [htype]
  rfl

/-! ## Written definitions -/

theorem propertyLines_eq_verbatim (n : Names) (f : Field) :
    propertyLines n f = propertyLines verbatim (f.rename n.scalar) := by
  unfold propertyLines
  rw [fieldType_eq_verbatim]
  rfl

theorem parameterLine_eq_verbatim (n : Names) (f : Field) :
    parameterLine n f = parameterLine verbatim (f.rename n.scalar) := by
  unfold parameterLine
  rw [fieldType_eq_verbatim]
  rfl

/-- The lines of fields under other names. -/
theorem map_rename {β : Type} {line line' : Field → β} {f : String → String}
    (h : ∀ field, line field = line' (field.rename f)) (fields : List Field) :
    fields.map line = (fields.map (·.rename f)).map line' := by
  rw [List.map_map]
  apply List.map_congr_left
  intro field _
  exact h field

/-- **The code of a record knows names as leaves of its types only.** -/
theorem recordCode_eq_verbatim (n : Names) (bases : List (String × String)) (r : Record) :
    recordCode n bases r = recordCode verbatim bases (r.rename n.scalar) := by
  have hproperties : r.fields.flatMap (propertyLines n) =
      (r.fields.map (·.rename n.scalar)).flatMap (propertyLines verbatim) := by
    rw [List.flatMap_def, List.flatMap_def, map_rename (propertyLines_eq_verbatim n)]
  have hkey : ∀ f : Field, keyLine f = keyLine (f.rename n.scalar) := fun _ => rfl
  have hhead : recordHead bases (r.rename n.scalar) = recordHead bases r := rfl
  unfold recordCode
  rw [hhead, Record.rename]
  dsimp only
  rw [List.isEmpty_map, ← hproperties, ← map_rename hkey]

theorem signature_eq_verbatim (n : Names) (o : Operation) :
    signature n o = signature verbatim (o.rename n.scalar) := by
  unfold signature Operation.rename
  dsimp only
  rw [List.isEmpty_map, map_rename (parameterLine_eq_verbatim n)]

theorem functionBody_rename (f : String → String) (o : Operation) :
    functionBody (o.rename f) = functionBody o := by
  have hline : ∀ field : Field, bodyLine field = bodyLine (field.rename f) := fun _ => rfl
  unfold functionBody Operation.rename
  dsimp only
  rw [List.isEmpty_map, ← map_rename hline, List.map_map]
  rfl

/-- **The code of an operation knows names as leaves of its types only.** -/
theorem operationCode_eq_verbatim (n : Names) (o : Operation) :
    operationCode n o = operationCode verbatim (o.rename n.scalar) := by
  unfold operationCode
  rw [functionBody_rename, ← signature_eq_verbatim]

end Bindings

end ApiBindings
