import ApiBindings.Markup.Node
import ApiBindings.Markup.Token.Pass
/-!
# From tokens to trees

Elements are opened and closed by a stack. A closing tag closes up to the innermost open element
of its name and does nothing if there is none; no element closes another by being opened. Text
that comes in several tokens is one text up to the next tag or aside.
-/

namespace ApiBindings.Markup

/-! ## Texts -/

/-- The blanks that collapse where a text holds nothing else. -/
def isCollapsible (c : Char) : Bool := [' ', '\n', '\t', '\x0c', '\r'].contains c

/-- A text of such blanks alone is a line feed if it holds one, else a space. -/
def collapse (chars : List Char) : List Char :=
  if chars.all isCollapsible then (if chars.contains '\n' then ['\n'] else [' ']) else chars

/-! ## Open elements -/

/-- An element that is not closed yet; its children stand last first. -/
structure Opened where
  name : List Char
  attributes : List Attribute
  children : List Node

/-- A tree under construction. -/
structure Growth where
  /-- The finished nodes outside of every open element, last first. -/
  roots : List Node
  /-- The open elements, innermost first. -/
  stack : List Opened
  /-- The text since the last tag or aside, if there is any. -/
  pending : Option (List Char)
  /-- The void elements so far that are not self-closed and whose closing tag has not been seen. -/
  voids : List (List Char)

/-- Nothing has been read. -/
def Growth.empty : Growth := ⟨[], [], none, []⟩

/-- An open element has one of the names. -/
def Growth.isInside (g : Growth) (names : List (List Char)) : Bool :=
  g.stack.any fun o => names.contains o.name

/-- A finished node becomes a child of the innermost open element. -/
def Growth.add (node : Node) (g : Growth) : Growth :=
  match g.stack with
  | [] => { g with roots := node :: g.roots }
  | o :: outer => { g with stack := { o with children := node :: o.children } :: outer }

/-- A text node, collapsed unless the place is preformatted. -/
def Growth.addText (shown : Bool) (chars : List Char) (g : Growth) : Growth :=
  g.add (.text shown (if g.isInside preformattedNames then chars else collapse chars))

/-- The pending text becomes a node. -/
def Growth.flush (g : Growth) : Growth :=
  match g.pending with
  | none => g
  | some chars => { g.addText (!g.isInside unshownNames) chars with pending := none }

/-- The innermost open element is closed. -/
def Growth.closeInnermost (g : Growth) : Growth :=
  match g.stack with
  | [] => g
  | o :: outer => { g with stack := outer }.add (.element o.name o.attributes o.children.reverse)

/-- The `n` innermost open elements are closed. -/
def Growth.closeMany : Nat → Growth → Growth
  | 0, g => g
  | n + 1, g => closeMany n g.closeInnermost

/-- All elements up to the innermost one of a name are closed, if one is open. -/
def Growth.closeUpTo (name : List Char) (g : Growth) : Growth :=
  match g.stack.findIdx? (·.name == name) with
  | none => g
  | some i => g.closeMany (i + 1)

/-- A closing tag. The first one behind a void element of its name belongs to that element. -/
def Growth.close (name : List Char) (g : Growth) : Growth :=
  if g.voids.contains name then { g with voids := g.voids.erase name }
  else g.flush.closeUpTo name

/-- An opening tag. A self-closed element is closed at once, and so is a void one; only for the
latter a closing tag may still follow. -/
def Growth.open (name : List Char) (attributes : List Attribute) (selfClosed : Bool)
    (g : Growth) : Growth :=
  let g := g.flush
  let g := { g with stack := ⟨name, attributes, []⟩ :: g.stack }
  if selfClosed then g.closeInnermost
  else if voidNames.contains name then { g.closeInnermost with voids := name :: g.voids }
  else g

/-- The tree after one more token. -/
def Growth.push (g : Growth) : Token → Growth
  | .text chars => { g with pending := some (g.pending.getD [] ++ chars) }
  | .opening name attributes selfClosed => g.open name attributes selfClosed
  | .closing name => g.close name
  | .verbatim chars => g.flush.addText true chars
  | .aside => g.flush

/-! ## Trees -/

/-- The forest of a list of tokens; what is still open at the end is closed there. -/
def Node.ofTokens (ts : List Token) : List Node :=
  let g := (ts.foldl Growth.push Growth.empty).flush
  (g.closeMany g.stack.length).roots.reverse

end ApiBindings.Markup
