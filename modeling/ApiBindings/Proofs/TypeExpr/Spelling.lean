import ApiBindings.Proofs.Bindings.Leaves
import ApiBindings.Proofs.TypeExpr.Levels
/-!
# How phrases spell types

A type is spelled by the phrases that its parts can be put together to: an alias spells its scalar,
`Array of` stands before the items of a list, a conjunction between two alternatives, and a name
that has no such meaning spells itself. Main statement: the type that is read from a phrase is
spelled by it, and with neither an alias nor an `and` the phrase can be written back from the type
(`spells_ofPhrase`).
-/

namespace ApiBindings.TypeExpr

/-! ## Spelling -/

/-- A phrase that is a name and nothing else: no alias, no list, and without a conjunction. -/
structure IsName (aliases : List (String × String)) (s : List Char) : Prop where
  not_alias : aliases.lookup (String.ofList s) = none
  not_list : ¬ listWords <+: s
  not_choice : ∀ k : Conjunction, ¬ ' ' :: k.word <:+: s

/-- The phrase spells the type under a table of aliases. -/
inductive Spells (aliases : List (String × String)) : TypeExpr → List Char → Prop where
  | known {s : List Char} {name : String} (h : aliases.lookup (String.ofList s) = some name) :
    Spells aliases (.scalar name) s
  | list {item : TypeExpr} {s : List Char} (h : Spells aliases item s) :
    Spells aliases (.list item) (listWords ++ s)
  | sum {left right : TypeExpr} {s t : List Char} (k : Conjunction)
    (hleft : Spells aliases left s) (hright : Spells aliases right t) :
    Spells aliases (.sum left right) (s ++ ' ' :: k.word ++ t)
  | name {s : List Char} (h : IsName aliases s) : Spells aliases (.scalar (String.ofList s)) s

/-- Alternatives with one conjunction between each two spell the choice between their types. -/
theorem spells_choice {aliases : List (String × String)} (k : Conjunction)
    {read : List Char → TypeExpr} {first : List Char} {rest : List (List Char)}
    (h : ∀ s ∈ first :: rest, Spells aliases (read s) s) :
    Spells aliases (choice (read first) (rest.map read))
      (List.intercalate (' ' :: k.word) (first :: rest)) := by
  induction rest generalizing first with
  | nil =>
    rw [List.intercalate_singleton]
    exact h first (by simp)
  | cons next rest ih =>
    rw [List.forall_mem_cons] at h
    rw [List.intercalate_cons_cons, List.map_cons, choice]
    exact .sum k h.1 (ih h.2)

/-- **A phrase spells the type that is read from it.** -/
theorem spells_ofChars (aliases : List (String × String)) (s : List Char) :
    Spells aliases (ofChars aliases s) s := by
  fun_induction ofChars aliases s with
  | case1 s name hname => exact .known hname
  | case2 s hname item hitem ih =>
    rw [Text.dropStart?_eq_some_iff.1 hitem]
    exact .list ih
  | case3 s hname hitem halternatives =>
    refine .name ⟨hname, ?_, alternatives?_eq_none_iff.1 halternatives⟩
    exact Text.dropStart?_eq_none_iff.1 hitem
  | case4 s hname hitem first rest halternatives ihfirst ihrest =>
    obtain ⟨k, after, hcut, rfl⟩ := exists_conjunction_of_alternatives? halternatives
    -- the cut and the parts behind it make up the phrase
    have hjoin : s = List.intercalate (' ' :: k.word) (first :: Text.splitOn ' ' k.word after) := by
      rw [List.intercalate_cons_of_ne_nil (Text.splitOn_ne_nil _ _ _), Text.intercalate_splitOn]
      exact Text.eq_of_cut? hcut
    have hread : ∀ p ∈ first :: Text.splitOn ' ' k.word after,
        Spells aliases (ofChars aliases p) p := by
      rw [List.forall_mem_cons]
      exact ⟨ihfirst, ihrest⟩
    rw [List.attach_map_val, hjoin]
    exact spells_choice k hread

/-! ## Scalars -/

/-- A scalar of a spelled type is what an alias stands for, or a name that stands in the phrase. -/
theorem mem_leaves_of_spells {aliases : List (String × String)} {t : TypeExpr} {s : List Char}
    (h : Spells aliases t s) : ∀ leaf ∈ t.leaves,
      leaf ∈ aliases.map Prod.snd ∨ (IsName aliases leaf.toList ∧ leaf.toList <:+: s) := by
  induction h with
  | @known s name halias =>
    rw [leaves, List.forall_mem_singleton]
    obtain ⟨before, after, rfl, -⟩ := List.lookup_eq_some_iff.1 halias
    exact Or.inl (by simp)
  | list _ ih =>
    intro leaf hleaf
    refine (ih leaf hleaf).imp_right fun hname => ⟨hname.1, hname.2.trans ?_⟩
    exact (List.suffix_append _ _).isInfix
  | sum k _ _ ihleft ihright =>
    rw [leaves, List.forall_mem_append]
    constructor
    · intro leaf hleaf
      refine (ihleft leaf hleaf).imp_right fun hname => ⟨hname.1, hname.2.trans ?_⟩
      rw [List.append_assoc]
      exact (List.prefix_append _ _).isInfix
    · intro leaf hleaf
      refine (ihright leaf hleaf).imp_right fun hname => ⟨hname.1, hname.2.trans ?_⟩
      exact (List.suffix_append _ _).isInfix
  | name hname =>
    rw [leaves, List.forall_mem_singleton, String.toList_ofList]
    exact Or.inr ⟨hname, List.infix_rfl⟩

/-! ## Writing back -/

/-- The phrase of a type, with `or` between alternatives. -/
def toPhrase : TypeExpr → String
  | .scalar name => name
  | .list item => "Array of " ++ item.toPhrase
  | .sum left right => left.toPhrase ++ " or " ++ right.toPhrase

/-- Without aliases, only one phrase without `and` spells a type. -/
theorem toPhrase_of_spells {t : TypeExpr} {s : List Char} (h : Spells [] t s)
    (hand : ¬ " and ".toList <:+: s) : t.toPhrase.toList = s := by
  induction h with
  | known halias => exact absurd halias (by simp)
  | list _ ih =>
    rw [toPhrase, String.toList_append, ih]
    · rfl
    · intro hitem
      exact hand (hitem.trans (List.suffix_append _ _).isInfix)
  | @sum left right s t k _ _ ihleft ihright =>
    cases k with
    | and => exact absurd (List.infix_append s _ t) hand
    | or =>
      rw [toPhrase, String.toList_append, String.toList_append, ihleft, ihright]
      · rfl
      · intro hright
        exact hand (hright.trans (List.suffix_append _ _).isInfix)
      · intro hleft
        rw [List.append_assoc] at hand
        exact hand (hleft.trans (List.prefix_append _ _).isInfix)
  | name _ => rw [toPhrase, String.toList_ofList]

/-- **Reading a phrase loses, moves and joins nothing.** A phrase spells the type that it names,
under every table of aliases. Without aliases every scalar of the type is a name of the phrase that
has no other meaning, and if the phrase has no `and`, it is the phrase of the type. That type is
what is read, wherever there is room for the levels of the phrase. -/
theorem spells_ofPhrase (aliases : List (String × String)) (phrase : String) :
    Spells aliases (ofPhrase aliases phrase) phrase.toList ∧
    (∀ leaf ∈ (ofPhrase [] phrase).leaves,
      IsName [] leaf.toList ∧ leaf.toList <:+: phrase.toList) ∧
    (¬ " and ".toList <:+: phrase.toList → (ofPhrase [] phrase).toPhrase = phrase) ∧
    ∀ room, read room aliases phrase =
      if levels aliases phrase.toList ≤ room then .ok (ofPhrase aliases phrase)
      else .error .deepNesting := by
  have hplain : Spells [] (ofPhrase [] phrase) phrase.toList := spells_ofChars [] phrase.toList
  refine ⟨spells_ofChars aliases phrase.toList, ?_, ?_, fun room => read_eq room aliases phrase⟩
  · intro leaf hleaf
    exact (mem_leaves_of_spells hplain leaf hleaf).resolve_left (by simp)
  · intro hand
    exact String.toList_inj.1 (toPhrase_of_spells hplain hand)

/-- A list of alternatives is read as one list and written back. -/
theorem spells_ofPhrase_listOfMedia :
    ¬ " and ".toList <:+: "Array of Photo or Array of Video or Text".toList ∧
      ofPhrase [] "Array of Photo or Array of Video or Text" =
        .list (.sum (.scalar "Photo") (.sum (.list (.scalar "Video")) (.scalar "Text"))) ∧
      (ofPhrase [] "Array of Photo or Array of Video or Text").toPhrase =
        "Array of Photo or Array of Video or Text" := by
  have hand : ¬ " and ".toList <:+: "Array of Photo or Array of Video or Text".toList := by
    decide +kernel
  exact ⟨hand, by decide +kernel, (spells_ofPhrase [] _).2.2.1 hand⟩

end ApiBindings.TypeExpr
