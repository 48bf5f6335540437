import ApiBindings.Proofs.Naming.Affix
import ApiBindings.Proofs.Naming.Numbering
/-!
# Labels and their cases

The cuts take off what all cases share at their ends, as far as words begin there, and the label of
a case is based on the stem that they leave of it. Main statements: the cuts are the longest
possible, a stem and what is cut off make up its case, so that no two cases have one stem
(`strips_ofCases`); and the labels of a union, as they come in any order of its cases, are the same
(`variantLabels_perm`).
-/

namespace ApiBindings.Naming

open Text

/-! ## The cuts -/

/-- The cut at the front is the longest that all cases agree on and behind which a word begins in
each of them. -/
theorem isGreatest_front {cases : List (List Char)} (h : cases ≠ []) :
    IsGreatest {n | AgreeAtFront cases n ∧ ∀ case ∈ cases, isBoundary case n = true}
      (Cut.ofCases cases).front := by
  obtain ⟨first, rest, rfl⟩ := List.exists_cons_of_ne_nil h
  have hgreatest := isGreatest_backOff (fun n => (first :: rest).all (isBoundary · n))
    (by simp [isBoundary]) (sharedPrefix first (first :: rest))
  simp only [le_sharedPrefix_iff, List.all_eq_true] at hgreatest
  exact hgreatest

/-- The cut at the back is the longest that all cases agree on and with which a word begins in each
of them. -/
theorem isGreatest_back {cases : List (List Char)} (h : cases ≠ []) :
    IsGreatest {n | AgreeAtBack cases n ∧ ∀ case ∈ cases, isBoundary case (case.length - n) = true}
      (Cut.ofCases cases).back := by
  obtain ⟨first, rest, rfl⟩ := List.exists_cons_of_ne_nil h
  have hgreatest := isGreatest_backOff
    (fun n => (first :: rest).all fun case => isBoundary case (case.length - n))
    (by simp [isBoundary_length]) (sharedSuffix first (first :: rest))
  simp only [le_sharedSuffix_iff, List.all_eq_true] at hgreatest
  exact hgreatest

/-- The cuts depend on what cases there are and not on their order. -/
theorem ofCases_congr {cases cases' : List (List Char)} (h : ∀ case, case ∈ cases ↔ case ∈ cases') :
    Cut.ofCases cases = Cut.ofCases cases' := by
  rcases eq_or_ne cases [] with rfl | hcases
  · obtain rfl : cases' = [] := List.eq_nil_iff_forall_not_mem.2 fun case hcase =>
      List.not_mem_nil ((h case).2 hcase)
    rfl
  · have hcases' : cases' ≠ [] := by
      obtain ⟨case, hcase⟩ := List.exists_mem_of_ne_nil cases hcases
      exact List.ne_nil_of_mem ((h case).1 hcase)
    have hfront := isGreatest_front hcases
    have hback := isGreatest_back hcases
    simp only [AgreeAtFront, AgreeAtBack, h] at hfront hback
    show (⟨(Cut.ofCases cases).front, (Cut.ofCases cases).back⟩ : Cut) = Cut.ofCases cases'
    rw [hfront.unique (isGreatest_front hcases'), hback.unique (isGreatest_back hcases')]

/-- A word begins in each case where the cut at the front ends. -/
theorem isBoundary_front {cases : List (List Char)} {case : List Char} (h : case ∈ cases) :
    isBoundary case (Cut.ofCases cases).front = true :=
  (isGreatest_front (List.ne_nil_of_mem h)).1.2 case h

/-! ## Stems -/

/-- A stem begins where the cut at the front ends. -/
theorem Cut.exists_stem_eq {cut : Cut} {case : List Char}
    (h : cut.front + cut.back < case.length) :
    ∃ c cs, cut.stem case = c :: cs ∧ case[cut.front]? = some c ∧ c ∈ case ∧
      ∀ d ∈ cs, d ∈ case := by
  have hlength : (case.take (case.length - cut.back)).length = case.length - cut.back := by
    rw [List.length_take]
    omega
  have hlt : cut.front < (case.take (case.length - cut.back)).length := by omega
  have hstem := List.drop_eq_getElem_cons hlt
  refine ⟨_, _, hstem, ?_, ?_, ?_⟩
  · rw [List.getElem_take, List.getElem?_eq_getElem (by omega)]
  · exact List.mem_of_mem_take (List.getElem_mem hlt)
  · intro d hd
    exact List.mem_of_mem_take (List.mem_of_mem_drop hd)

/-- A case is what is cut off at its front, its stem, and what is cut off at its back. -/
theorem Cut.eq_append_stem_append {cut : Cut} {case front back : List Char}
    (hfront : front <+: case) (hback : back <:+ case) (hfrontLength : front.length = cut.front)
    (hbackLength : back.length = cut.back) (h : cut.front + cut.back ≤ case.length) :
    case = front ++ cut.stem case ++ back := by
  have htake : case.take cut.front = (case.take (case.length - cut.back)).take cut.front := by
    rw [List.take_take, Nat.min_eq_left (by omega)]
  rw [List.prefix_iff_eq_take.1 hfront, List.suffix_iff_eq_drop.1 hback, hfrontLength, hbackLength,
    htake, Cut.stem, List.take_append_drop, List.take_append_drop]

/-- The label of a case that the cuts would use up is the case. -/
theorem Cut.label_of_length_le {cut : Cut} {case : String}
    (h : case.length ≤ cut.front + cut.back) : cut.label case.toList = escapeKeyword case := by
  rw [Cut.label, String.length_toList, if_pos h, String.ofList_toList]

/-- The label of any other case is its stem with a small first letter. -/
theorem Cut.label_of_stem {cut : Cut} {case : List Char} {c : Char} {cs : List Char}
    (h : cut.front + cut.back < case.length) (hstem : cut.stem case = c :: cs) :
    cut.label case = escapeKeyword (String.ofList (lower [c] ++ cs)) := by
  rw [Cut.label, if_neg (Nat.not_le.2 h), hstem, uncapitalize]

/-- The labels before numbering are those that the cuts of all cases leave of each. -/
theorem baseLabels_eq_map (cases : List String) :
    baseLabels cases =
      cases.map fun case => (Cut.ofCases (cases.map String.toList)).label case.toList := by
  simp only [baseLabels, List.map_map, Function.comp_def]

/-- The cuts of some cases, with the texts that they take off. -/
structure Cut.Strips (cut : Cut) (cases : List String) (front back : List Char) : Prop where
  /-- All cases begin with the one text and end in the other. -/
  shared : ∀ case ∈ cases, front <+: case.toList ∧ back <:+ case.toList
  /-- The text at the front is as long as all cases agree and words begin behind it. -/
  front_longest : ∃ m, commonPrefixLength cases = .ok m ∧
    IsGreatest {n | n ≤ m ∧ ∀ case ∈ cases, isBoundary case.toList n = true} front.length
  /-- The text at the back is as long as all cases agree and words begin with it. -/
  back_longest : ∃ m, commonSuffixLength cases = .ok m ∧
    IsGreatest {n | n ≤ m ∧ ∀ case ∈ cases, isBoundary case.toList (case.length - n) = true}
      back.length
  /-- A case that the cuts would use up stays whole. -/
  whole : ∀ case ∈ cases, case.length ≤ front.length + back.length →
    cut.label case.toList = escapeKeyword case
  /-- Of any other case the stem stays, with its first character in lower case. -/
  stripped : ∀ case ∈ cases, front.length + back.length < case.length →
    ∃ c cs, cut.stem case.toList = c :: cs ∧ case.toList = front ++ (c :: cs) ++ back ∧
      cut.label case.toList = escapeKeyword (String.ofList (lower [c] ++ cs))
  /-- No two of these have one stem. -/
  stem_injective : ∀ case ∈ cases, ∀ case' ∈ cases, front.length + back.length < case.length →
    front.length + back.length < case'.length →
    cut.stem case.toList = cut.stem case'.toList → case = case'

/-- The text that the cut at the front takes off every case. -/
theorem exists_front {cases : List String} (h : cases ≠ []) :
    ∃ front : List Char, front.length = (Cut.ofCases (cases.map String.toList)).front ∧
      (∀ case ∈ cases, front <+: case.toList) ∧
      ∃ m, commonPrefixLength cases = .ok m ∧
        IsGreatest {n | n ≤ m ∧ ∀ case ∈ cases, isBoundary case.toList n = true} front.length := by
  have hgreatest := isGreatest_front (by simpa using h : cases.map String.toList ≠ [])
  obtain ⟨m, hm, hagree⟩ := exists_commonPrefixLength h
  obtain ⟨front, hlength, hcases⟩ := hgreatest.1.1
  simp only [← hagree, List.forall_mem_map] at hgreatest hcases
  rw [← hlength] at hgreatest
  exact ⟨front, hlength, hcases, m, hm, hgreatest⟩

/-- The text that the cut at the back takes off every case. -/
theorem exists_back {cases : List String} (h : cases ≠ []) :
    ∃ back : List Char, back.length = (Cut.ofCases (cases.map String.toList)).back ∧
      (∀ case ∈ cases, back <:+ case.toList) ∧
      ∃ m, commonSuffixLength cases = .ok m ∧
        IsGreatest {n | n ≤ m ∧ ∀ case ∈ cases, isBoundary case.toList (case.length - n) = true}
          back.length := by
  have hgreatest := isGreatest_back (by simpa using h : cases.map String.toList ≠ [])
  obtain ⟨m, hm, hagree⟩ := exists_commonSuffixLength h
  obtain ⟨back, hlength, hcases⟩ := hgreatest.1.1
  simp only [← hagree, List.forall_mem_map, String.length_toList] at hgreatest hcases
  rw [← hlength] at hgreatest
  exact ⟨back, hlength, hcases, m, hm, hgreatest⟩

/-- **What the label of a case is based on.** The labels of a union are the numbered labels of its
cases under the cuts that the cases have: the longest affixes that all cases share and that end
where a word begins in each. -/
theorem strips_ofCases {cases : List String} (h : cases ≠ []) :
    ∃ front back, (Cut.ofCases (cases.map String.toList)).Strips cases front back ∧
      variantLabels cases = numberedAfter []
        (cases.map fun case => (Cut.ofCases (cases.map String.toList)).label case.toList) := by
  obtain ⟨front, hfrontLength, hfront, hfrontLongest⟩ := exists_front h
  obtain ⟨back, hbackLength, hback, hbackLongest⟩ := exists_back h
  -- the texts that all cases agree on make up each longer case with its stem
  have hsplit : ∀ case ∈ cases, front.length + back.length < case.length →
      case.toList = front ++ (Cut.ofCases (cases.map String.toList)).stem case.toList ++ back := by
    intro case hcase hlonger
    apply Cut.eq_append_stem_append (hfront case hcase) (hback case hcase) hfrontLength hbackLength
    rw [← hfrontLength, ← hbackLength, String.length_toList]
    exact hlonger.le
  refine ⟨front, back, ?_, congrArg (numberedAfter []) (baseLabels_eq_map cases)⟩
  constructor
  case shared => exact fun case hcase => ⟨hfront case hcase, hback case hcase⟩
  case front_longest => exact hfrontLongest
  case back_longest => exact hbackLongest
  case whole =>
    intro case hcase hwhole
    rw [hfrontLength, hbackLength] at hwhole
    exact Cut.label_of_length_le hwhole
  case stripped =>
    intro case hcase hlonger
    have hcut := hlonger
    rw [hfrontLength, hbackLength, ← String.length_toList] at hcut
    obtain ⟨c, cs, hstem, -⟩ := Cut.exists_stem_eq hcut
    refine ⟨c, cs, hstem, ?_, Cut.label_of_stem hcut hstem⟩
    rw [← hstem]
    exact hsplit case hcase hlonger
  case stem_injective =>
    intro case hcase case' hcase' hlonger hlonger' hstem
    rw [← String.toList_inj, hsplit case hcase hlonger, hsplit case' hcase' hlonger', hstem]

/-- Kinds of input, one of which is nothing but what all share. -/
def inputFiles : List String := ["InputPhotoFile", "InputVideoFile", "InputFile"]

/-- Both ends are cut off where they leave a stem. -/
theorem strips_ofCases_inputFiles :
    inputFiles ≠ [] ∧ variantLabels inputFiles = ["photo", "video", "InputFile"] ∧
      ∃ front back, (Cut.ofCases (inputFiles.map String.toList)).Strips inputFiles front back := by
  have hne : inputFiles ≠ [] := by decide
  obtain ⟨front, back, hstrips, -⟩ := strips_ofCases hne
  exact ⟨hne, by decide +kernel, front, back, hstrips⟩

/-! ## Order -/

/-- **The order of the cases does not matter for the labels.** Whatever the order of the cases, a
union has the same labels, each as often, and in every order the first occurrence of a label before
numbering is called by it, and each later one by it and the number of the occurrence. -/
theorem variantLabels_perm (cases : List String) :
    (∀ cases', cases.Perm cases' → (variantLabels cases).Perm (variantLabels cases')) ∧
    ∀ before label after, baseLabels cases = before ++ label :: after →
      (variantLabels cases)[before.length]? = some (ordinal label (before.count label + 1)) := by
  constructor
  · intro cases' hperm
    have hchars : (cases.map String.toList).Perm (cases'.map String.toList) := hperm.map _
    have hcut := ofCases_congr fun _ => hchars.mem_iff
    have hbase : (baseLabels cases).Perm (baseLabels cases') := by
      rw [baseLabels_eq_map, baseLabels_eq_map, hcut]
      exact hperm.map _
    rw [variantLabels, variantLabels, numberedAfter_eq_map_ordinal, numberedAfter_eq_map_ordinal]
    exact (perm_occurrences hbase).map _
  · intro before label after hsplit
    rw [variantLabels, numberedAfter_eq_map_ordinal, hsplit, List.getElem?_map,
      getElem?_occurrences, List.count_nil, Nat.zero_add]
    rfl

/-- Two photos and a video. -/
def twoPhotos : List String := ["MediaPhoto", "MediaVideo", "MediaPhoto"]

/-- In another order the video comes first, and the second photo is still the one with a number. -/
theorem variantLabels_perm_twoPhotos :
    twoPhotos.Perm ["MediaVideo", "MediaPhoto", "MediaPhoto"] ∧
      variantLabels twoPhotos = ["photo", "video", "photo2"] ∧
      ["photo", "video", "photo2"].Perm (variantLabels ["MediaVideo", "MediaPhoto", "MediaPhoto"]) ∧
      (variantLabels twoPhotos)[2]? = some (ordinal "photo" 2) := by
  have hperm : twoPhotos.Perm ["MediaVideo", "MediaPhoto", "MediaPhoto"] := by decide
  have hlabels : variantLabels twoPhotos = ["photo", "video", "photo2"] := by decide +kernel
  have hbase : baseLabels twoPhotos = ["photo", "video"] ++ "photo" :: [] := by decide +kernel
  have hsecond := (variantLabels_perm twoPhotos).2 _ _ _ hbase
  have hcount : ["photo", "video"].count "photo" = 1 := by decide
  rw [hcount] at hsecond
  refine ⟨hperm, hlabels, ?_, hsecond⟩
  rw [← hlabels]
  exact (variantLabels_perm twoPhotos).1 _ hperm

end ApiBindings.Naming
