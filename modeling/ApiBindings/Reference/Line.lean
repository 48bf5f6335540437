import ApiBindings.Text.Affix
import ApiBindings.Text.Casing
/-!
# Lines of the reference page

The page has one structural tag to a line. What a line begins with says what it is; every other line
is of no interest.
-/

namespace ApiBindings.Reference

/-- The lines that matter. -/
inductive LineKind where
  | heading
  | paragraph
  | listOpen
  | listItem
  | rowOpen
  | rowClose
  | cell
  | tableClose
  deriving DecidableEq, Repr

/-- What follows `tag` at the beginning of a text, letters of either case counting as one. -/
def dropCaseless? : List Char → List Char → Option (List Char)
  | [], s => some s
  | _ :: _, [] => none
  | t :: ts, c :: cs => if Text.sameLetter t c then dropCaseless? ts cs else none

/-- The line opens a heading: `<`, the heading tag in any case, and a blank or `>`. -/
def opensHeading (tag : String) : List Char → Bool
  | '<' :: rest =>
    match dropCaseless? tag.toList rest with
    | some (c :: _) => Text.isBlank c || c == '>'
    | _ => false
  | _ => false

/-- The kind of a line, where headings have the given tag. -/
def LineKind.ofLine? (headingTag line : String) : Option LineKind :=
  if opensHeading headingTag line.toList then some .heading
  else if Text.startsWith line "<p>" || Text.startsWith line "<p " then some .paragraph
  else if line = "<tr>" then some .rowOpen
  else if line = "</tr>" then some .rowClose
  else if Text.startsWith line "<ul>" then some .listOpen
  else if Text.startsWith line "<li>" then some .listItem
  else if Text.startsWith line "<td>" then some .cell
  else if Text.startsWith line "</table>" then some .tableClose
  else none

end ApiBindings.Reference
