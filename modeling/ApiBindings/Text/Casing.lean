import ApiBindings.Text.CharClass
import ApiBindings.Text.Table.Casing
/-!
# Lower case and capitals

The full case mappings: a letter may become several, and a capital sigma at the end of a word
becomes a final sigma. A text is capitalized by giving its first character title case and the rest
lower case.
-/

namespace ApiBindings.Text

/-! ## Single characters -/

/-- The run holds the code point `n`. -/
def CaseRun.covers (r : CaseRun) (n : Nat) : Bool :=
  r.first ≤ n && n ≤ r.last && (n - r.first) % r.step == 0

/-- The form of `c` by the several-letter spellings, else by the runs, else `c` itself. -/
def caseForm (spellings : List (Nat × List Nat)) (runs : List CaseRun) (c : Char) : List Char :=
  match spellings.lookup c.toNat with
  | some form => form.map Char.ofNat
  | none =>
    match runs.find? (·.covers c.toNat) with
    | some r => [Char.ofNat (r.image + (c.toNat - r.first))]
    | none => [c]

/-- The lower-case form of a character that stands alone. -/
def lowerForm (c : Char) : List Char := caseForm lowerSpellings lowerRuns c

/-- The title-case form of a character. -/
def titleForm (c : Char) : List Char := caseForm titleSpellings titleRuns c

/-! ## The final sigma -/

/-- The nearest character that is not passed over is a cased letter. -/
def meetsCased (s : List Char) : Bool :=
  match s.dropWhile (inRanges caseIgnorableRanges) with
  | [] => false
  | c :: _ => inRanges casedRanges c

/-- The lower-case form of `c` after `before` (nearest first) and before `after`: a capital sigma
ends a word when a cased letter precedes it and none follows. -/
def lowerBetween (before after : List Char) (c : Char) : List Char :=
  if c == 'Σ' then
    if meetsCased before && !meetsCased after then ['ς'] else ['σ']
  else lowerForm c

/-! ## Texts -/

/-- The lower-case form of a text that stands after `before` (nearest first). -/
def lowerAfter (before : List Char) : List Char → List Char
  | [] => []
  | c :: cs => lowerBetween before cs c ++ lowerAfter (c :: before) cs

/-- The lower-case form of a text. -/
def lower (s : List Char) : List Char := lowerAfter [] s

/-- The first character in title case, the rest in lower case. -/
def capitalize : List Char → List Char
  | [] => []
  | c :: cs => titleForm c ++ lowerAfter [c] cs

/-! ## Letters apart from case -/

/-- The first character of the lower-case form. -/
def lowerHead (c : Char) : Char := (lowerForm c).headD c

/-- Two characters differ at most in case: their lower-case forms agree or share an upper-case
form. -/
def sameLetter (c d : Char) : Bool :=
  lowerHead c == lowerHead d || caseClasses.any fun cls =>
    cls.contains (lowerHead c).toNat && cls.contains (lowerHead d).toNat

end ApiBindings.Text
