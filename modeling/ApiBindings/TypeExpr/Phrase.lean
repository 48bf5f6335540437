import ApiBindings.Error
import ApiBindings.TypeExpr.Basic
import ApiBindings.Text.Affix
/-!
# Type phrases

How the prose of a reference page names types: `Array of PhotoSize`, `InputFile or String`. A
phrase that is an alias stands for its scalar; otherwise `Array of` makes a list, `or` (before
`and`) a choice that nests to the right, and anything else is the name of a scalar.

The reader calls itself for each part of a phrase, and calls can only be nested so deep. `read` is
the reader with that limit, `ofPhrase` the type that a phrase names whatever its depth.
-/

namespace ApiBindings.TypeExpr

/-! ## Aliases -/

/-- The names that every page gives to plain scalars. -/
def baseAliases : List (String × String) :=
  [("Integer", "Int"), ("Float number", "Float"), ("Boolean", "Bool"), ("True", "Bool")]

/-! ## Words with a meaning -/

/-- The words that make a list of what follows them. -/
def listWords : List Char := "Array of ".toList

/-- The phrase of the items, if the phrase is that of a list. -/
def listItem? (s : List Char) : Option (List Char) := Text.dropStart? listWords s

/-- The phrase of the items is shorter than that of the list. -/
theorem length_lt_of_listItem? {s item : List Char} (h : listItem? s = some item) :
    item.length < s.length := by
  have hs := congrArg List.length (Text.dropStart?_eq_some_iff.1 h)
  have : listWords.length = 9 := by decide
  rw [List.length_append] at hs
  omega

/-- The words that stand between two alternatives. -/
inductive Conjunction where
  | or
  | and
  deriving DecidableEq, Repr

/-- The last two letters of a conjunction and the space behind it, after the space before it. -/
def Conjunction.word : Conjunction → List Char
  | .or => "or ".toList
  | .and => "and ".toList

/-- The alternatives of a phrase: split at `or` if the phrase holds one, else at `and`. -/
def alternatives? (s : List Char) : Option (List Char × List (List Char)) :=
  [Conjunction.or, Conjunction.and].findSome? fun k =>
    (Text.cut? (' ' :: k.word) s).map fun (first, rest) => (first, Text.splitOn ' ' k.word rest)

/-- The alternatives of a phrase are its parts between the occurrences of one conjunction. -/
theorem exists_conjunction_of_alternatives? {s first : List Char} {rest : List (List Char)}
    (h : alternatives? s = some (first, rest)) :
    ∃ k : Conjunction, ∃ after, Text.cut? (' ' :: k.word) s = some (first, after) ∧
      rest = Text.splitOn ' ' k.word after := by
  obtain ⟨_, k, _, _, hk, _⟩ := List.findSome?_eq_some_iff.1 h
  obtain ⟨⟨before, after⟩, hcut, heq⟩ := Option.map_eq_some_iff.1 hk
  obtain ⟨rfl, rfl⟩ := by simpa using heq
  exact ⟨k, after, hcut, rfl⟩

/-- A phrase has no alternatives exactly if no conjunction stands in it. -/
theorem alternatives?_eq_none_iff {s : List Char} :
    alternatives? s = none ↔ ∀ k : Conjunction, ¬ ' ' :: k.word <:+: s := by
  rw [alternatives?, List.findSome?_eq_none_iff]
  simp only [Option.map_eq_none_iff, Text.cut?_eq_none_iff]
  constructor
  · intro h k
    exact h k (by cases k <;> decide)
  · intro h k _
    exact h k

/-- Every alternative is shorter than the phrase. -/
theorem length_lt_of_alternatives? {s first : List Char} {rest : List (List Char)}
    (h : alternatives? s = some (first, rest)) :
    first.length < s.length ∧ ∀ p ∈ rest, p.length < s.length := by
  obtain ⟨k, after, hcut, rfl⟩ := exists_conjunction_of_alternatives? h
  have := Text.length_lt_of_cut? (by simp) hcut
  refine ⟨this.1, fun p hp => ?_⟩
  have := Text.length_le_of_mem_splitOn hp
  omega

/-! ## Reading -/

/-- A choice between one or more types, nested to the right. -/
def choice (first : TypeExpr) : List TypeExpr → TypeExpr
  | [] => first
  | next :: rest => .sum first (choice next rest)

/-- The type that is read from a phrase where there is room for so many calls within one another.
The phrase of the items of a list takes one call more; an alternative takes two, since they are read
within a walk over them all. -/
def readChars (aliases : List (String × String)) : Nat → List Char → Except Error TypeExpr
  | 0, _ => .error .deepNesting
  | room + 1, s =>
    match aliases.lookup (String.ofList s) with
    | some name => .ok (.scalar name)
    | none =>
      match listItem? s with
      | some item => (readChars aliases room item).map .list
      | none =>
        match alternatives? s with
        | none => .ok (.scalar (String.ofList s))
        | some (first, rest) =>
          match room with
          | 0 => .error .deepNesting
          | room + 1 => do
            let first ← readChars aliases room first
            let rest ← rest.mapM (readChars aliases room)
            return choice first rest

/-- The type that is read from a phrase where there is room for so many calls within one another. -/
def read (room : Nat) (aliases : List (String × String)) (phrase : String) :
    Except Error TypeExpr :=
  readChars aliases room phrase.toList

/-! ## What a phrase names -/

/-- The type that a phrase names under a table of aliases. -/
def ofChars (aliases : List (String × String)) (s : List Char) : TypeExpr :=
  match aliases.lookup (String.ofList s) with
  | some name => .scalar name
  | none =>
    match _hl : listItem? s with
    | some item => .list (ofChars aliases item)
    | none =>
      match _ha : alternatives? s with
      | none => .scalar (String.ofList s)
      | some (first, rest) =>
        choice (ofChars aliases first) (rest.attach.map fun ⟨p, _⟩ => ofChars aliases p)
termination_by s.length
decreasing_by
  · exact length_lt_of_listItem? _hl
  · exact (length_lt_of_alternatives? _ha).1
  · exact (length_lt_of_alternatives? _ha).2 p ‹_›

/-- The type that a phrase names under a table of aliases. -/
def ofPhrase (aliases : List (String × String)) (phrase : String) : TypeExpr :=
  ofChars aliases phrase.toList

end ApiBindings.TypeExpr
