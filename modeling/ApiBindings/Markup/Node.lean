import ApiBindings.Markup.Tag
/-!
# Markup trees

A fragment of markup as a forest of elements and texts, and the text that a reader of it sees.
-/

namespace ApiBindings.Markup

/-- A text, which may be one that is not shown, or an element with its children. -/
inductive Node where
  | text (shown : Bool) (chars : List Char)
  | element (name : List Char) (attributes : List Attribute) (children : List Node)

mutual

/-- The characters that are shown of a node. -/
def Node.shownText : Node → List Char
  | .text shown chars => if shown then chars else []
  | .element _ _ children => shownTexts children

/-- The characters that are shown of several nodes, in their order. -/
def shownTexts : List Node → List Char
  | [] => []
  | n :: ns => n.shownText ++ shownTexts ns

end

/-- The value of an attribute; of several with one name the last counts. -/
def attributeValue? (name : String) (attributes : List Attribute) : Option (List Char) :=
  (attributes.reverse.find? (·.name == name.toList)).map (·.value)

/-! ## Elements with a rule of their own -/

/-- Elements that are closed as soon as they are opened. -/
def voidNames : List (List Char) := [
  "area", "base", "br", "col", "embed", "hr", "img", "input", "keygen", "link", "menuitem", "meta",
  "param", "source", "track", "wbr", "basefont", "bgsound", "command", "frame", "image", "isindex",
  "nextid", "spacer"].map String.toList

/-- Elements whose text is not shown. -/
def unshownNames : List (List Char) := ["script", "style", "template", "rt", "rp"].map String.toList

/-- Elements in which blanks count. -/
def preformattedNames : List (List Char) := ["pre", "textarea"].map String.toList

end ApiBindings.Markup
