import ApiBindings.Text.Quoted
/-!
# Fragments that cannot be read

Why a fragment has no tokens. Either it is no markup, and then its text can still be had without
them, or a number in it is too long, and then it has no text at all.
-/

namespace ApiBindings.Markup

/-- Why a fragment is no markup. -/
inductive Rejection where
  /-- A section with a status that is not known, written so. -/
  | unknownStatus (written : String)
  /-- A section that begins with something other than a name, and how it begins. -/
  | unnamedStatus (excerpt : String)
  deriving DecidableEq, Repr

/-- What is said about a fragment that is no markup. -/
def Rejection.message : Rejection → String
  | .unknownStatus written =>
    "unknown status keyword " ++ Text.quoted written ++ " in marked section"
  | .unnamedStatus excerpt => "expected name token at " ++ Text.quoted excerpt

/-- Why a fragment has no tokens. -/
inductive Refusal where
  /-- It is no markup. -/
  | rejected (why : Rejection)
  /-- A decimal number in it has more digits than are read. -/
  | longNumber (digits : Nat)
  deriving DecidableEq, Repr

end ApiBindings.Markup
