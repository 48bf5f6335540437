import ApiBindings.Markup.Tag
/-!
# Markup tokens

What a fragment of markup is made of, and what a reader can find at a place of it.
-/

namespace ApiBindings.Markup

/-- The pieces that a fragment is made of. -/
inductive Token where
  /-- Characters to be shown, references already replaced. -/
  | text (chars : List Char)
  /-- An opening tag; a self-closed one closes at once. -/
  | opening (name : List Char) (attributes : List Attribute) (selfClosed : Bool)
  /-- A closing tag. -/
  | closing (name : List Char)
  /-- A section whose characters are shown as they are. -/
  | verbatim (chars : List Char)
  /-- A comment, a declaration or an instruction: nothing to show, but it parts the text around
  it. -/
  | aside
  deriving DecidableEq, Repr

/-- What the reader finds at a place of the fragment. -/
inductive Found where
  /-- Tokens, and the text behind them. -/
  | tokens (found : List Token) (rest : List Char)
  /-- A construct that is not finished. -/
  | incomplete
  /-- Tokens, and a text that this pass does not go into. -/
  | stop (found : List Token) (rest : List Char)
  /-- Something for which the whole fragment is refused. -/
  | refused (why : Refusal)
  deriving DecidableEq

/-- The text that a reader may go on with. -/
def Found.rest? : Found → Option (List Char)
  | .tokens _ rest => some rest
  | _ => none

end ApiBindings.Markup
