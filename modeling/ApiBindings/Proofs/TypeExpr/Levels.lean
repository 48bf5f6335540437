import ApiBindings.Proofs.Outcome
import ApiBindings.TypeExpr.Phrase
/-!
# How deep a phrase is

A phrase is read by calls within one another, as many as it has levels. Main statement: it is read
exactly if there is room for them, and then as the type that it names (`read_eq`). There are phrases
of any number of levels (`levels_nested`).
-/

namespace ApiBindings.TypeExpr

/-! ## Levels -/

/-- The greatest of some numbers is a bound of them, and the least one. -/
theorem foldr_max_le_iff {ns : List Nat} {n : Nat} : ns.foldr max 0 ≤ n ↔ ∀ m ∈ ns, m ≤ n := by
  induction ns with
  | nil => simp
  | cons m ns ih => rw [List.foldr_cons, Nat.max_le, ih, List.forall_mem_cons]

/-- How many calls within one another it takes to read a phrase. -/
def levels (aliases : List (String × String)) (s : List Char) : Nat :=
  match aliases.lookup (String.ofList s) with
  | some _ => 1
  | none =>
    match _hl : listItem? s with
    | some item => levels aliases item + 1
    | none =>
      match _ha : alternatives? s with
      | none => 1
      | some (first, rest) =>
        max (levels aliases first) ((rest.attach.map fun ⟨p, _⟩ => levels aliases p).foldr max 0)
          + 2
termination_by s.length
decreasing_by
  · exact length_lt_of_listItem? _hl
  · exact (length_lt_of_alternatives? _ha).1
  · exact (length_lt_of_alternatives? _ha).2 p ‹_›

section Levels

variable {aliases : List (String × String)} {s : List Char}

theorem levels_of_alias {name : String} (h : aliases.lookup (String.ofList s) = some name) :
    levels aliases s = 1 := by
  rw [levels, h]

theorem levels_of_list {item : List Char} (halias : aliases.lookup (String.ofList s) = none)
    (h : listItem? s = some item) : levels aliases s = levels aliases item + 1 := by
  rw [levels, halias]
  dsimp only
  split
  · rename_i item' hitem
    cases h.symm.trans hitem
    rfl
  · rename_i hitem
    cases h.symm.trans hitem

theorem levels_of_choice {first : List Char} {rest : List (List Char)}
    (halias : aliases.lookup (String.ofList s) = none) (hlist : listItem? s = none)
    (h : alternatives? s = some (first, rest)) :
    levels aliases s =
      max (levels aliases first) ((rest.map (levels aliases)).foldr max 0) + 2 := by
  rw [levels, halias]
  dsimp only
  split
  · rename_i item hitem
    cases hlist.symm.trans hitem
  · split
    · rename_i halternatives
      cases h.symm.trans halternatives
    · rename_i first' rest' halternatives
      cases h.symm.trans halternatives
      rw [List.attach_map_val]

theorem levels_of_name (halias : aliases.lookup (String.ofList s) = none)
    (hlist : listItem? s = none) (h : alternatives? s = none) : levels aliases s = 1 := by
  rw [levels, halias]
  dsimp only
  split
  · rename_i item hitem
    cases hlist.symm.trans hitem
  · split
    · rfl
    · rename_i first rest halternatives
      cases h.symm.trans halternatives

end Levels

/-- A phrase has at most two levels for each of its characters, and one more. -/
theorem levels_le (aliases : List (String × String)) (s : List Char) :
    levels aliases s ≤ 2 * s.length + 1 := by
  fun_induction levels aliases s with
  | case1 s name halias => omega
  | case2 s halias item hitem ih =>
    have hlt := length_lt_of_listItem? hitem
    omega
  | case3 s halias hitem halternatives => omega
  | case4 s halias hitem first rest halternatives ihfirst ihrest =>
    obtain ⟨hfirst, hrest⟩ := length_lt_of_alternatives? halternatives
    have hmax : (rest.attach.map fun ⟨p, _⟩ => levels aliases p).foldr max 0 ≤
        2 * s.length - 1 := by
      rw [List.attach_map_val, foldr_max_le_iff, List.forall_mem_map]
      intro p hp
      have hlt := hrest p hp
      have hp' := ihrest p hp
      omega
    omega

/-- A phrase has a level. -/
theorem levels_pos (aliases : List (String × String)) (s : List Char) : 0 < levels aliases s := by
  fun_induction levels aliases s <;> omega

/-! ## Lists of lists -/

/-- The phrase of a list, so many lists deep. -/
def nested : Nat → List Char → List Char
  | 0, item => item
  | n + 1, item => listWords ++ nested n item

/-- Each of the lists is a level, where none of them has an alias. -/
theorem levels_nested {aliases : List (String × String)}
    (halias : ∀ s, aliases.lookup (String.ofList (listWords ++ s)) = none) (n : Nat)
    (item : List Char) : levels aliases (nested n item) = levels aliases item + n := by
  induction n with
  | zero => rfl
  | succ n ih =>
    have hitem : listItem? (listWords ++ nested n item) = some (nested n item) :=
      Text.dropStart?_eq_some_iff.2 rfl
    rw [nested, levels_of_list (halias (nested n item)) hitem, ih]
    rfl

/-- A page gives no alias to a list of its own. -/
theorem lookup_baseAliases_listWords (s : List Char) :
    baseAliases.lookup (String.ofList (listWords ++ s)) = none := by
  rw [List.lookup_eq_none_iff]
  intro p hp
  have hfirst : baseAliases.all (fun p => p.1.toList.head? != listWords.head?) = true := by decide
  have hdiffers := List.all_eq_true.1 hfirst p hp
  rw [bne_iff_ne] at hdiffers ⊢
  intro heq
  rw [← heq, String.toList_ofList] at hdiffers
  exact hdiffers rfl

/-! ## Room for a phrase -/

theorem readChars_eq (aliases : List (String × String)) (room : Nat) (s : List Char) :
    readChars aliases room s =
      if levels aliases s ≤ room then .ok (ofChars aliases s) else .error .deepNesting := by
  fun_induction ofChars aliases s generalizing room with
  | case1 s name halias =>
    rw [levels_of_alias halias]
    cases room with
    | zero => rfl
    | succ room => simp [readChars, halias]
  | case2 s halias item hitem ih =>
    rw [levels_of_list halias hitem]
    cases room with
    | zero => rfl
    | succ room =>
      simp only [readChars, halias, hitem, ih, Nat.add_le_add_iff_right]
      split <;> rfl
  | case3 s halias hitem halternatives =>
    rw [levels_of_name halias hitem halternatives]
    cases room with
    | zero => rfl
    | succ room => simp [readChars, halias, hitem, halternatives]
  | case4 s halias hitem first rest halternatives ihfirst ihrest =>
    rw [levels_of_choice halias hitem halternatives, List.attach_map_val]
    match room with
    | 0 => rfl
    | 1 => simp [readChars, halias, hitem, halternatives]
    | room + 2 =>
      -- the alternatives fit exactly if the first one does and all others do
      have hfits :
          max (levels aliases first) ((rest.map (levels aliases)).foldr max 0) + 2 ≤ room + 2 ↔
            levels aliases first ≤ room ∧ ∀ p ∈ rest, levels aliases p ≤ room := by
        rw [Nat.add_le_add_iff_right, Nat.max_le, foldr_max_le_iff, List.forall_mem_map]
      have hrest := mapM_eq_ite fun p hp => ihrest p hp room
      simp only [readChars, halias, hitem, halternatives, hfits, ihfirst, hrest]
      by_cases hfirst : levels aliases first ≤ room
      · by_cases hall : ∀ p ∈ rest, levels aliases p ≤ room
        · rw [if_pos hfirst, if_pos hall, if_pos (And.intro hfirst hall)]
          rfl
        · have hnot : ¬ (levels aliases first ≤ room ∧ ∀ p ∈ rest, levels aliases p ≤ room) :=
            fun h => hall h.2
          rw [if_pos hfirst, if_neg hall, if_neg hnot]
          rfl
      · have hnot : ¬ (levels aliases first ≤ room ∧ ∀ p ∈ rest, levels aliases p ≤ room) :=
          fun h => hfirst h.1
        rw [if_neg hfirst, if_neg hnot]
        rfl

/-- **A phrase is read exactly if there is room for its levels**, and then as the type that it
names. -/
theorem read_eq (room : Nat) (aliases : List (String × String)) (phrase : String) :
    read room aliases phrase =
      if levels aliases phrase.toList ≤ room then .ok (ofPhrase aliases phrase)
      else .error .deepNesting :=
  readChars_eq aliases room phrase.toList

/-- A type that is read is the one that the phrase names. -/
theorem eq_of_read {room : Nat} {aliases : List (String × String)} {phrase : String} {t : TypeExpr}
    (h : read room aliases phrase = .ok t) : t = ofPhrase aliases phrase := by
  rw [read_eq] at h
  split at h
  · cases h
    rfl
  · cases h

end ApiBindings.TypeExpr
