import ApiBindings.Markup.Token.Construct
import ApiBindings.Markup.Token.Reference
/-!
# From characters to tokens

A fragment is read in two passes. The first stops at a construct that is not finished or at a
reference that might go on; the second takes up what is left, and what is unfinished then is text.
A pass ends because each step leaves a shorter end of the text.
-/

namespace ApiBindings.Markup

/-! ## Passes -/

/-- Plain characters run up to the next `<` or `&`. -/
def isPlain (c : Char) : Bool := c != '<' && c != '&'

/-- What the reader finds at the place where `c` stands before `s`. -/
def readAt (last : Bool) (c : Char) (s : List Char) : Found :=
  if c == '<' then readMarkup s
  else if c == '&' then readReference last s
  else .tokens [.text (c :: s.takeWhile isPlain)] (s.dropWhile isPlain)

theorem readAt_suffix {last : Bool} {c : Char} {s rest : List Char}
    (h : (readAt last c s).rest? = some rest) : rest <:+ s := by
  unfold readAt at h
  split at h
  · exact readMarkup_suffix h
  · split at h
    · exact readReference_suffix h
    · obtain rfl := by simpa [Found.rest?] using h
      exact List.dropWhile_suffix _

/-- How an unfinished construct, `c` and what follows, becomes text in the last pass: up to the next
`>` with it, else up to the next `<`, else `c` alone. -/
def giveUp (c : Char) (s : List Char) : List Char × List Char :=
  match Text.cut? ['>'] s with
  | some (before, rest) => (c :: before ++ ['>'], rest)
  | none =>
    if s.contains '<' then (c :: s.takeWhile (· != '<'), s.dropWhile (· != '<')) else ([c], s)

theorem giveUp_suffix (c : Char) (s : List Char) : (giveUp c s).2 <:+ s := by
  unfold giveUp
  split
  · exact Text.cut?_suffix ‹_›
  · split
    · exact List.dropWhile_suffix _
    · exact List.suffix_refl _

/-- The elements whose content is raw up to their closing tag. -/
def rawNames : List (List Char) := ["script".toList, "style".toList]

/-- The element that the tokens leave open for raw content. -/
def rawAfter : List Token → Option (List Char)
  | [.opening name _ false] => if rawNames.contains name then some name else none
  | _ => none

/-- What a pass has read: its tokens, the element whose raw content is not closed yet, and the text
that it did not go into. -/
structure Pass where
  tokens : List Token
  raw : Option (List Char)
  rest : List Char

/-- The pass with tokens before those it has read. -/
def Pass.after (found : List Token) (p : Pass) : Pass := { p with tokens := found ++ p.tokens }

/-- One pass over a text that begins inside the raw content of an element, or outside of any. -/
def pass (last : Bool) (raw : Option (List Char)) (s : List Char) : Except Refusal Pass :=
  match raw with
  | some name =>
    match _h : cutAt? (rawEnd? name) s with
    | none => .ok ⟨[], some name, s⟩
    | some (content, rest) =>
      (pass last none rest).map (.after (if content.isEmpty then [.closing name]
        else [.text content, .closing name]))
  | none =>
    match s with
    | [] => .ok ⟨[], none, []⟩
    | c :: cs =>
      match _h : readAt last c cs with
      | .tokens found rest => (pass last (rawAfter found) rest).map (.after found)
      | .incomplete =>
        if last then (pass last none (giveUp c cs).2).map (.after [.text (giveUp c cs).1])
        else .ok ⟨[], none, c :: cs⟩
      | .stop found rest => .ok ⟨found, none, rest⟩
      | .refused why => .error why
termination_by s.length
decreasing_by
  · exact length_lt_of_cutAt? (fun _ _ => length_lt_of_rawEnd?) _h
  · have := (readAt_suffix (congrArg Found.rest? _h)).length_le
    simp only [List.length_cons]
    omega
  · have := (giveUp_suffix c cs).length_le
    simp only [List.length_cons]
    omega

/-- The tokens of a fragment. What the last pass leaves is text, unless it is raw content. -/
def tokens (s : List Char) : Except Refusal (List Token) := do
  let first ← pass false none s
  let second ← pass true first.raw first.rest
  let left := if second.raw.isSome || second.rest.isEmpty then [] else [Token.text second.rest]
  return first.tokens ++ second.tokens ++ left

end ApiBindings.Markup
