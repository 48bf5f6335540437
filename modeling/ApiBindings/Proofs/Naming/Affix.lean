import Mathlib.Data.List.Infix
import Mathlib.Data.Nat.Find
import Mathlib.Order.Bounds.Basic
import ApiBindings.Naming.Affix
/-!
# Longest shared affixes

The searches for a shared prefix and a shared suffix go by the first label, but what they find does
not: main statements are that all labels agree on their first `n` characters exactly if the first
search gets as far as `n` (`le_sharedPrefix_iff`), the same from the back (`le_sharedSuffix_iff`),
that both searches find the greatest such length in every order of the labels
(`isGreatest_commonAffixLengths`), and that backing off finds the greatest length that is aligned
(`isGreatest_backOff`).
-/

namespace ApiBindings.Naming

/-! ## Agreement -/

/-- The labels have at least `n` characters and agree on the first `n`. -/
def AgreeAtFront (labels : List (List Char)) (n : Nat) : Prop :=
  ∃ w : List Char, w.length = n ∧ ∀ l ∈ labels, w <+: l

/-- The labels have at least `n` characters and agree on the last `n`. -/
def AgreeAtBack (labels : List (List Char)) (n : Nat) : Prop :=
  ∃ w : List Char, w.length = n ∧ ∀ l ∈ labels, w <:+ l

/-- Labels agree on as many characters of the first one as all of them begin with. -/
theorem agreeAtFront_iff {first : List Char} {rest : List (List Char)} {n : Nat} :
    AgreeAtFront (first :: rest) n ↔
      n ≤ first.length ∧ ∀ l ∈ first :: rest, first.take n <+: l := by
  constructor
  · rintro ⟨w, rfl, h⟩
    have hfirst : w <+: first := h first List.mem_cons_self
    rw [← List.prefix_iff_eq_take.1 hfirst]
    exact ⟨hfirst.length_le, h⟩
  · rintro ⟨hn, h⟩
    exact ⟨first.take n, by rw [List.length_take, Nat.min_eq_left hn], h⟩

/-- Labels agree at the back exactly if they agree at the front when read backwards. -/
theorem agreeAtFront_reverse_iff {labels : List (List Char)} {n : Nat} :
    AgreeAtFront (labels.map List.reverse) n ↔ AgreeAtBack labels n := by
  unfold AgreeAtFront AgreeAtBack
  simp only [List.forall_mem_map]
  constructor
  · rintro ⟨w, hlength, h⟩
    refine ⟨w.reverse, by rw [List.length_reverse, hlength], fun l hl => ?_⟩
    rw [← List.reverse_prefix, List.reverse_reverse]
    exact h l hl
  · rintro ⟨w, hlength, h⟩
    refine ⟨w.reverse, by rw [List.length_reverse, hlength], fun l hl => ?_⟩
    rw [List.reverse_prefix]
    exact h l hl

/-! ## Search -/

/-- A length is grown to `m` and further exactly if all lengths up to `m` are shared. -/
theorem le_grow_iff {isShared : Nat → Bool} {left n m : Nat} :
    m ≤ grow isShared left n ↔
      m ≤ n ∨ m ≤ n + left ∧ ∀ i, n < i → i ≤ m → isShared i = true := by
  induction left generalizing n with
  | zero => exact ⟨Or.inl, fun h => h.elim id And.left⟩
  | succ left ih =>
    rw [grow]
    split
    · rename_i hshared
      rw [ih]
      constructor
      · rintro (hm | ⟨hm, hall⟩)
        · rcases Nat.lt_or_ge n m with hlt | hle
          · obtain rfl : m = n + 1 := by omega
            refine Or.inr ⟨by omega, fun i hi hle => ?_⟩
            obtain rfl : i = n + 1 := by omega
            exact hshared
          · exact Or.inl hle
        · refine Or.inr ⟨by omega, fun i hi hle => ?_⟩
          rcases Nat.eq_or_lt_of_le (Nat.succ_le_of_lt hi) with rfl | hi
          · exact hshared
          · exact hall i hi hle
      · rintro (hm | ⟨hm, hall⟩)
        · exact Or.inl (by omega)
        · exact Or.inr ⟨by omega, fun i hi hle => hall i (by omega) hle⟩
    · rename_i hshared
      constructor
      · exact Or.inl
      · rintro (hm | ⟨hm, hall⟩)
        · exact hm
        · by_contra hlt
          exact hshared (hall (n + 1) (by omega) (by omega))

/-- **The search from the front is exact.** -/
theorem le_sharedPrefix_iff {first : List Char} {rest : List (List Char)} {n : Nat} :
    n ≤ sharedPrefix first (first :: rest) ↔ AgreeAtFront (first :: rest) n := by
  rw [sharedPrefix, le_grow_iff, agreeAtFront_iff]
  simp only [Nat.zero_add, List.all_eq_true, List.isPrefixOf_iff_prefix]
  constructor
  · rintro (hn | ⟨hn, hall⟩)
    · obtain rfl : n = 0 := Nat.le_zero.1 hn
      exact ⟨Nat.zero_le _, fun l _ => List.nil_prefix⟩
    · rcases Nat.eq_zero_or_pos n with rfl | hpos
      · exact ⟨hn, fun l _ => List.nil_prefix⟩
      · exact ⟨hn, hall n hpos (Nat.le_refl n)⟩
  · rintro ⟨hn, hall⟩
    -- what all labels begin with they also begin with up to any character of it
    exact Or.inr ⟨hn, fun i _ hi l hl => (List.take_prefix_take_left hi).trans (hall l hl)⟩

/-- The search from the back is the search from the front through the labels read backwards. -/
theorem sharedSuffix_eq (first : List Char) (labels : List (List Char)) :
    sharedSuffix first labels = sharedPrefix first.reverse (labels.map List.reverse) := by
  have hend : ∀ (n : Nat) (l : List Char), (first.drop (first.length - n)).isSuffixOf l =
      (first.reverse.take n).isPrefixOf l.reverse := by
    intro n l
    rw [List.take_reverse]
    rfl
  simp only [sharedSuffix, sharedPrefix, List.length_reverse, List.all_map, Function.comp_def, hend]

/-- **The search from the back is exact.** -/
theorem le_sharedSuffix_iff {first : List Char} {rest : List (List Char)} {n : Nat} :
    n ≤ sharedSuffix first (first :: rest) ↔ AgreeAtBack (first :: rest) n := by
  rw [sharedSuffix_eq, List.map_cons, le_sharedPrefix_iff, ← agreeAtFront_reverse_iff,
    List.map_cons]

/-- Cases have a longest shared prefix: up to its length they agree at the front. -/
theorem exists_commonPrefixLength {cases : List String} (h : cases ≠ []) :
    ∃ m, commonPrefixLength cases = .ok m ∧
      ∀ n, n ≤ m ↔ AgreeAtFront (cases.map String.toList) n := by
  obtain ⟨first, rest, rfl⟩ := List.exists_cons_of_ne_nil h
  exact ⟨_, rfl, fun n => le_sharedPrefix_iff⟩

/-- Cases have a longest shared suffix: up to its length they agree at the back. -/
theorem exists_commonSuffixLength {cases : List String} (h : cases ≠ []) :
    ∃ m, commonSuffixLength cases = .ok m ∧
      ∀ n, n ≤ m ↔ AgreeAtBack (cases.map String.toList) n := by
  obtain ⟨first, rest, rfl⟩ := List.exists_cons_of_ne_nil h
  exact ⟨_, rfl, fun n => le_sharedSuffix_iff⟩

/-! ## Labels in any order and backwards -/

/-- A label read backwards. -/
def backwards (label : String) : String := String.ofList label.toList.reverse

/-- The length that the search from the front finds is the greatest on which all labels agree. -/
theorem commonPrefixLength_eq_ok_iff {labels : List String} (h : labels ≠ []) {m : Nat} :
    commonPrefixLength labels = .ok m ↔
      IsGreatest {n | AgreeAtFront (labels.map String.toList) n} m := by
  obtain ⟨longest, hlongest, hagree⟩ := exists_commonPrefixLength h
  have hgreatest : IsGreatest {n | AgreeAtFront (labels.map String.toList) n} longest :=
    ⟨(hagree longest).1 (Nat.le_refl longest), fun n hn => (hagree n).2 hn⟩
  rw [hlongest, Except.ok.injEq]
  constructor
  · rintro rfl
    exact hgreatest
  · exact fun hm => hgreatest.unique hm

/-- The two lengths are each other's mirror. -/
theorem commonSuffixLength_eq (labels : List String) :
    commonSuffixLength labels = commonPrefixLength (labels.map backwards) := by
  cases labels with
  | nil => rfl
  | cons first rest =>
    simp only [commonSuffixLength, commonPrefixLength, sharedSuffix_eq, List.map_cons,
      List.map_map, Function.comp_def, backwards, String.toList_ofList]

/-- The labels' order does not matter for the search, although it goes by the first of them. -/
theorem commonPrefixLength_perm {labels labels' : List String} (h : labels.Perm labels') :
    commonPrefixLength labels = commonPrefixLength labels' := by
  rcases eq_or_ne labels [] with rfl | hne
  · rw [h.nil_eq]
  · have hne' : labels' ≠ [] := by
      rintro rfl
      exact hne h.eq_nil
    obtain ⟨m, hm, -⟩ := exists_commonPrefixLength hne
    have hgreatest := (commonPrefixLength_eq_ok_iff hne).1 hm
    simp only [AgreeAtFront, (h.map String.toList).mem_iff] at hgreatest
    rw [hm, (commonPrefixLength_eq_ok_iff hne').2 hgreatest]

/-- **The searches are exact.** Labels have a longest prefix and a longest suffix that all of them
share. The one is as long as they agree from the front and the other as long as they agree from the
back, which is from the front when they are read backwards, and no order of the labels changes
either. -/
theorem isGreatest_commonAffixLengths {labels : List String} (h : labels ≠ []) :
    ∃ m n, commonPrefixLength labels = .ok m ∧ commonSuffixLength labels = .ok n ∧
      IsGreatest {k | AgreeAtFront (labels.map String.toList) k} m ∧
      IsGreatest {k | AgreeAtBack (labels.map String.toList) k} n ∧
      commonPrefixLength (labels.map backwards) = .ok n ∧
      ∀ labels', labels.Perm labels' →
        commonPrefixLength labels' = .ok m ∧ commonSuffixLength labels' = .ok n := by
  obtain ⟨m, hm, hfront⟩ := exists_commonPrefixLength h
  obtain ⟨n, hn, hback⟩ := exists_commonSuffixLength h
  have hbackwards : commonPrefixLength (labels.map backwards) = .ok n := by
    rw [← commonSuffixLength_eq, hn]
  refine ⟨m, n, hm, hn, (commonPrefixLength_eq_ok_iff h).1 hm,
    ⟨(hback n).1 (Nat.le_refl n), fun k hk => (hback k).2 hk⟩, hbackwards, ?_⟩
  intro labels' hperm
  constructor
  · rw [← commonPrefixLength_perm hperm, hm]
  · rw [commonSuffixLength_eq, ← commonPrefixLength_perm (hperm.map backwards), hbackwards]

/-- Two kinds of media share more than the word that they begin with. -/
theorem isGreatest_commonAffixLengths_media :
    ["InputMediaPhoto", "InputMediaVideo"] ≠ [] ∧
      IsGreatest
        {k | AgreeAtFront (["InputMediaPhoto", "InputMediaVideo"].map String.toList) k} 10 ∧
      IsGreatest {k | AgreeAtBack (["InputMediaPhoto", "InputMediaVideo"].map String.toList) k} 1 ∧
      commonSuffixLength ["InputMediaVideo", "InputMediaPhoto"] = .ok 1 := by
  have hne : ["InputMediaPhoto", "InputMediaVideo"] ≠ [] := by decide
  obtain ⟨m, n, hm, hn, hfront, hback, -, hperm⟩ := isGreatest_commonAffixLengths hne
  have hten : commonPrefixLength ["InputMediaPhoto", "InputMediaVideo"] = .ok 10 := by
    decide +kernel
  have hone : commonSuffixLength ["InputMediaPhoto", "InputMediaVideo"] = .ok 1 := by
    decide +kernel
  obtain rfl : m = 10 := Except.ok.inj (hm.symm.trans hten)
  obtain rfl : n = 1 := Except.ok.inj (hn.symm.trans hone)
  exact ⟨hne, hfront, hback, (hperm _ (List.Perm.swap _ _ _)).2⟩

/-! ## Backing off -/

/-- A word begins at the end of a label. -/
theorem isBoundary_length (label : List Char) : isBoundary label label.length = true := by
  simp [isBoundary]

/-- Backing off is the search for the greatest number with a property. -/
theorem backOff_eq_findGreatest (aligned : Nat → Bool) (n : Nat) :
    backOff aligned n = Nat.findGreatest (fun m => aligned m = true) n := by
  induction n with
  | zero => rfl
  | succ n ih => rw [backOff, Nat.findGreatest_succ, ih]

/-- **Backing off finds the greatest length that is aligned,** where length zero is. -/
theorem isGreatest_backOff (aligned : Nat → Bool) (hzero : aligned 0 = true) (n : Nat) :
    IsGreatest {m | m ≤ n ∧ aligned m = true} (backOff aligned n) := by
  rw [backOff_eq_findGreatest]
  constructor
  · refine ⟨Nat.findGreatest_le n, ?_⟩
    exact Nat.findGreatest_spec (P := fun m => aligned m = true) (Nat.zero_le n) hzero
  · rintro m ⟨hm, haligned⟩
    exact Nat.le_findGreatest hm haligned

end ApiBindings.Naming
