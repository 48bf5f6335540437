/-!
# Type expressions

The closed algebra of types that a reference page can speak of: a named scalar, a list, or a choice
between two alternatives.
-/

namespace ApiBindings

/-- A type: a scalar by its name, a list of some type, or one of two types. -/
inductive TypeExpr where
  | scalar (name : String)
  | list (item : TypeExpr)
  | sum (left right : TypeExpr)
  deriving DecidableEq, Repr, Inhabited

end ApiBindings
