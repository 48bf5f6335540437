import ApiBindings.Naming.Affix
import ApiBindings.Naming.Identifier
import ApiBindings.Text.Casing
/-!
# Variant labels

The short labels that tell the cases of a union apart: what all cases share at their ends is cut
off at word boundaries, the first letter becomes small, and repeated labels are numbered.
-/

namespace ApiBindings.Naming

/-! ## Cutting -/

/-- How much is cut off the front and the back of every case. -/
structure Cut where
  front : Nat
  back : Nat
  deriving DecidableEq, Repr

/-- The longest shared affixes that end at a word boundary in every case. -/
def Cut.ofCases : List (List Char) → Cut
  | [] => ⟨0, 0⟩
  | first :: rest =>
    { front := backOff (fun n => (first :: rest).all (isBoundary · n))
        (sharedPrefix first (first :: rest))
      back := backOff (fun n => (first :: rest).all fun l => isBoundary l (l.length - n))
        (sharedSuffix first (first :: rest)) }

/-- What is left of a case between the two cuts. -/
def Cut.stem (cut : Cut) (label : List Char) : List Char :=
  (label.take (label.length - cut.back)).drop cut.front

/-- The first character in lower case. -/
def uncapitalize : List Char → List Char
  | [] => []
  | c :: cs => Text.lower [c] ++ cs

/-- The label of a case before numbering: a case that the cuts would use up stays whole. -/
def Cut.label (cut : Cut) (case : List Char) : String :=
  escapeKeyword <| String.ofList <|
    if case.length ≤ cut.front + cut.back then case else uncapitalize (cut.stem case)

/-- The labels of the cases before numbering. -/
def baseLabels (cases : List String) : List String :=
  let chars := cases.map String.toList
  chars.map (Cut.ofCases chars).label

/-! ## Numbering -/

/-- Labels numbered after the labels in `seen`: the n-th occurrence of a label, for n above one, has
`n` at its end. -/
def numberedAfter (seen : List String) : List String → List String
  | [] => []
  | l :: ls =>
    (if seen.count l = 0 then l else l ++ toString (seen.count l + 1))
      :: numberedAfter (l :: seen) ls

/-- One label per case. -/
def variantLabels (cases : List String) : List String := numberedAfter [] (baseLabels cases)

end ApiBindings.Naming
