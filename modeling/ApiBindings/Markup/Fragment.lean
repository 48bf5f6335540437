import ApiBindings.Link.Join
import ApiBindings.Markup.Tree
/-!
# Plain text of a fragment

One line of markup as the text that a reader sees. Links can be kept as `[text](target)`; a link
whose target is not known without a base address degrades to its text. A fragment that is no
markup loses whatever looks like a tag; one with a number that is too long has no text.
-/

namespace ApiBindings.Markup

/-! ## Links -/

/-- Beginnings of a target that needs no base. -/
def absoluteStarts : List (List Char) := ["http://".toList, "https://".toList]

/-- The target that a link's `href` leads to from the page at `base`, if it leads anywhere. -/
def target? (base : Option String) (href : Option (List Char)) :
    Except Error (Option (List Char)) :=
  match href with
  | none | some [] => .ok none
  | some href =>
    let href := Text.trimmed href
    if absoluteStarts.any (·.isPrefixOf href) then .ok (some href)
    else
      match base with
      | none => .ok none
      | some base =>
        if base.isEmpty then .ok none
        else (Link.join base.toList href).map fun t => if t.isEmpty then none else some t

/-- What is shown of a link. -/
def linkText (text : List Char) : Option (List Char) → List Char
  | none => text
  | some target => '[' :: text ++ "](".toList ++ target ++ [')']

/-- The name of links. -/
def linkName : List Char := ['a']

mutual

/-- The node with every outermost link replaced by its text. A target that is refused anywhere is an
error, also inside another link. -/
def Node.withLinks (base : Option String) : Node → Except Error Node
  | .text shown chars => .ok (.text shown chars)
  | .element name attributes children =>
    if name == linkName then do
      let target ← target? base (attributeValue? "href" attributes)
      let _ ← allWithLinks base children
      return .text true (linkText (shownTexts children) target)
    else do
      return .element name attributes (← allWithLinks base children)

/-- The nodes with every outermost link replaced by its text. -/
def allWithLinks (base : Option String) : List Node → Except Error (List Node)
  | [] => .ok []
  | n :: ns => do
    let first ← n.withLinks base
    let rest ← allWithLinks base ns
    return first :: rest

end

/-! ## Fragments that are no markup -/

/-- The text without its tags: a `<`, at least one character other than `>`, and a `>`. -/
def stripTags (s : List Char) : List Char :=
  match s with
  | [] => []
  | c :: cs =>
    if c == '<' then
      match _h : Text.cut? ['>'] cs with
      | some (_ :: _, rest) => stripTags rest
      | _ => '<' :: stripTags cs
    else c :: stripTags cs
termination_by s.length
decreasing_by
  · have := (Text.length_lt_of_cut? (by simp) _h).2
    simp only [List.length_cons]
    omega
  · simp
  · simp

/-! ## Fragments -/

/-- The tree of a fragment, or why it has none. -/
def tree (fragment : String) : Except Refusal (List Node) :=
  (tokens fragment.toList).map Node.ofTokens

/-- The text of a fragment that is no markup. -/
def strippedText (fragment : String) : String :=
  Text.trim (String.ofList (stripTags fragment.toList))

/-- The text of a fragment, where `shown` says what is shown of its tree. -/
def textBy (shown : List Node → Except Error (List Char)) (fragment : String) :
    Except Error String :=
  match tree fragment with
  | .error (.rejected _) => .ok (strippedText fragment)
  | .error (.longNumber digits) => .error (.longNumber digits)
  | .ok nodes => (shown nodes).map fun chars => Text.trim (String.ofList chars)

/-- The text of a fragment without its links. -/
def bareText : String → Except Error String := textBy fun nodes => .ok (shownTexts nodes)

/-- The text of a fragment with its links, on the page at `base`. -/
def linkedText (base : Option String) : String → Except Error String :=
  textBy fun nodes => (allWithLinks base nodes).map shownTexts

end ApiBindings.Markup
