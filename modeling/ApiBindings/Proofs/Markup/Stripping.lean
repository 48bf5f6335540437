import ApiBindings.Markup.Fragment
import ApiBindings.Proofs.Text.Trimming
/-!
# Tags that are stripped

A fragment that is no markup loses its tags from left to right. Taking out a tag brings together
what stood around it, and still no new tag arises: a `<` that was passed over has a `>` right behind
it, or none at all, and both stay so. Main statements: a text is stripped in one way
(`stripped_iff`), what is left has no tag (`Stripped.tagFree`), and the same of the text that is
shown of such a fragment (`tagFree_strippedText`).
-/

namespace ApiBindings.Markup

/-! ## Tags -/

/-- A tag: a `<`, at least one character other than `>`, and a `>`. -/
def IsTag (w : List Char) : Prop := ∃ body, body ≠ [] ∧ '>' ∉ body ∧ w = '<' :: (body ++ ['>'])

/-- No tag stands in the text. -/
def TagFree (s : List Char) : Prop := ∀ w, IsTag w → ¬ w <:+: s

/-- No tag stands in a part of a text without tags. -/
theorem TagFree.of_isInfix {s t : List Char} (h : TagFree t) (hst : s <:+: t) : TagFree s :=
  fun w hw hws => h w hw (hws.trans hst)

/-- A tag begins a text exactly if the text is a `<` and the first `>` behind it stands behind at
least one other character. -/
theorem exists_isTag_isPrefix_iff {c : Char} {s : List Char} :
    (∃ w, IsTag w ∧ w <+: c :: s) ↔
      c = '<' ∧ ∃ body rest, body ≠ [] ∧ '>' ∉ body ∧ s = body ++ '>' :: rest := by
  constructor
  · rintro ⟨_, ⟨body, hne, hbody, rfl⟩, rest, hs⟩
    obtain ⟨rfl, rfl⟩ := List.cons_eq_cons.1 hs
    exact ⟨rfl, body, rest, hne, hbody, by simp⟩
  · rintro ⟨rfl, body, rest, hne, hbody, rfl⟩
    exact ⟨_, ⟨body, hne, hbody, rfl⟩, rest, by simp⟩

/-! ## Stripping -/

/-- The second text is left of the first when the leftmost tags that do not overlap are taken out:
a tag is passed over whole, and a character with which no tag begins is kept. -/
inductive Stripped : List Char → List Char → Prop
  | nil : Stripped [] []
  | tag {w s kept : List Char} : IsTag w → Stripped s kept → Stripped (w ++ s) kept
  | keep {c : Char} {s kept : List Char} :
      (∀ w, IsTag w → ¬ w <+: c :: s) → Stripped s kept → Stripped (c :: s) (c :: kept)

/-- A tag is taken out. -/
theorem stripTags_tag {w : List Char} (h : IsTag w) (s : List Char) :
    stripTags (w ++ s) = stripTags s := by
  obtain ⟨body, hne, hbody, rfl⟩ := h
  obtain ⟨b, bs, rfl⟩ := List.exists_cons_of_ne_nil hne
  have hcut : Text.cut? ['>'] ((b :: bs) ++ ['>'] ++ s) = some (b :: bs, s) := by
    rw [List.append_assoc]
    exact Text.cut?_singleton hbody
  rw [List.cons_append, stripTags, if_pos (by decide)]
  split
  · rename_i heq
    rw [hcut] at heq
    cases heq
    rfl
  · rename_i hno
    exact absurd hcut (hno _ _ _)

/-- A character with which no tag begins is kept. -/
theorem stripTags_keep {c : Char} {s : List Char} (h : ∀ w, IsTag w → ¬ w <+: c :: s) :
    stripTags (c :: s) = c :: stripTags s := by
  have hno : c = '<' → ∀ b bs rest, Text.cut? ['>'] s ≠ some (b :: bs, rest) := by
    intro hc b bs rest hcut
    obtain ⟨hs, hbody⟩ := Text.cut?_singleton_eq_some_iff.1 hcut
    obtain ⟨w, hw, hprefix⟩ := exists_isTag_isPrefix_iff.2
      ⟨hc, b :: bs, rest, List.cons_ne_nil b bs, hbody, hs⟩
    exact h w hw hprefix
  rw [stripTags]
  split
  · rename_i hc
    obtain rfl : c = '<' := by simpa using hc
    split
    · rename_i heq
      exact absurd heq (hno rfl _ _ _)
    · rfl
  · rfl

/-- **A text is stripped in one way.** -/
theorem stripped_iff {s kept : List Char} : Stripped s kept ↔ stripTags s = kept := by
  constructor
  · intro h
    induction h with
    | nil => rw [stripTags]
    | tag hw _ ih => rw [stripTags_tag hw, ih]
    | keep hno _ ih => rw [stripTags_keep hno, ih]
  · rintro rfl
    induction hlength : s.length using Nat.strong_induction_on generalizing s with
    | _ n ih =>
      cases s with
      | nil =>
        rw [stripTags]
        exact .nil
      | cons c s =>
        by_cases htag : ∃ w, IsTag w ∧ w <+: c :: s
        · obtain ⟨w, hw, rest, hs⟩ := htag
          have hshorter : rest.length < n := by
            obtain ⟨body, -, -, rfl⟩ := hw
            rw [← hlength, ← hs, List.length_append, List.length_cons]
            omega
          rw [← hs, stripTags_tag hw]
          exact .tag hw (ih _ hshorter rfl)
        · have hno : ∀ w, IsTag w → ¬ w <+: c :: s := fun w hw hprefix => htag ⟨w, hw, hprefix⟩
          rw [stripTags_keep hno]
          exact .keep hno (ih _ (by rw [← hlength]; simp) rfl)

/-! ## What is left -/

/-- Nothing is left that was not there. -/
theorem Stripped.subset {s kept : List Char} (h : Stripped s kept) : kept ⊆ s := by
  induction h with
  | nil => exact List.Subset.refl []
  | tag _ _ ih => exact List.subset_append_of_subset_right _ ih
  | keep _ _ ih => exact List.cons_subset_cons _ ih

/-- What begins with a character other than `<` still does. -/
theorem Stripped.exists_cons {c : Char} {s kept : List Char} (hc : c ≠ '<')
    (h : Stripped (c :: s) kept) : ∃ kept', kept = c :: kept' := by
  have hno : ∀ w, IsTag w → ¬ w <+: c :: s := by
    intro w hw hprefix
    exact hc (exists_isTag_isPrefix_iff.1 ⟨w, hw, hprefix⟩).1
  rw [stripped_iff, stripTags_keep hno] at h
  exact ⟨_, h.symm⟩

/-- **No tag is left.** A `<` that was kept has a `>` right behind it, which is kept too, or none at
all behind it, and none comes from elsewhere. -/
theorem Stripped.tagFree {s kept : List Char} (h : Stripped s kept) : TagFree kept := by
  induction h with
  | nil =>
    rintro _ ⟨body, -, -, rfl⟩ hinfix
    cases List.infix_nil.1 hinfix
  | tag _ _ ih => exact ih
  | @keep c s kept hno hrest ih =>
    intro w hw hinfix
    rcases List.infix_cons_iff.1 hinfix with hprefix | hinfix
    · obtain ⟨rfl, body, rest, hne, hbody, rfl⟩ := exists_isTag_isPrefix_iff.1 ⟨w, hw, hprefix⟩
      have hclose : '>' ∈ s := hrest.subset (by simp)
      obtain ⟨front, behind, rfl, hfront⟩ := List.eq_append_cons_of_mem hclose
      cases front with
      | nil =>
        -- the `>` right behind stays there, so that nothing stands between
        obtain ⟨kept', hkept⟩ := hrest.exists_cons (by decide)
        obtain ⟨b, bs, rfl⟩ := List.exists_cons_of_ne_nil hne
        obtain ⟨rfl, -⟩ := List.cons_eq_cons.1 hkept
        exact hbody List.mem_cons_self
      | cons d front =>
        -- a tag began with the `<`
        obtain ⟨w', hw', hprefix'⟩ := exists_isTag_isPrefix_iff.2
          ⟨rfl, d :: front, behind, List.cons_ne_nil d front, hfront, rfl⟩
        exact hno w' hw' hprefix'
    · exact ih w hw hinfix

/-- A text without tags stays as it is. -/
theorem stripTags_eq_self {s : List Char} (h : TagFree s) : stripTags s = s := by
  induction s with
  | nil => rw [stripTags]
  | cons c s ih =>
    rw [stripTags_keep fun w hw hprefix => h w hw hprefix.isInfix,
      ih (h.of_isInfix (List.suffix_cons c s).isInfix)]

/-! ## Fragments that are no markup -/

/-- **No tag is left behind.** The text of a fragment that is no markup is the fragment without its
leftmost tags that do not overlap, trimmed. No tag stands in it, and stripping it again changes
nothing. -/
theorem tagFree_strippedText (fragment : String) :
    ∃ kept, Stripped fragment.toList kept ∧
      (strippedText fragment).toList = Text.trimmed kept ∧
      TagFree (strippedText fragment).toList ∧
      stripTags (strippedText fragment).toList = (strippedText fragment).toList ∧
      strippedText (strippedText fragment) = strippedText fragment ∧
      ∀ reason, tree fragment = .error (.rejected reason) →
        bareText fragment = .ok (strippedText fragment) ∧
          ∀ base, linkedText base fragment = .ok (strippedText fragment) := by
  have hkept : Stripped fragment.toList (stripTags fragment.toList) := stripped_iff.2 rfl
  have htext : (strippedText fragment).toList = Text.trimmed (stripTags fragment.toList) := by
    unfold strippedText Text.trim
    rw [String.toList_ofList, String.toList_ofList]
  have hfree : TagFree (strippedText fragment).toList := by
    rw [htext]
    exact hkept.tagFree.of_isInfix (Text.trimmed_isInfix _)
  have hagain : stripTags (strippedText fragment).toList = (strippedText fragment).toList :=
    stripTags_eq_self hfree
  refine ⟨_, hkept, htext, hfree, hagain, ?_, ?_⟩
  · rw [strippedText, hagain, String.ofList_toList, Text.trim, htext, Text.trimmed_trimmed, ← htext,
      String.ofList_toList]
  · intro reason hreason
    constructor
    · unfold bareText textBy
      rw [hreason]
    · intro base
      unfold linkedText textBy
      rw [hreason]

/-- A tag that is opened twice is one tag, an empty one is none. -/
example : strippedText "<![x[<<b>>c<>d" = ">c<>d" := by decide +kernel

end ApiBindings.Markup
