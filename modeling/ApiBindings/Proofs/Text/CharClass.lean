import ApiBindings.Proofs.Text.Casing
import Mathlib.Data.List.Sort
import Mathlib.Data.List.TakeWhile
/-!
# How the classes of characters lie to each other

The classes are lists of ranges in ascending order, so that one class lies in another, or outside of
it, is a statement about two lists that one sweep along both of them decides. What the sweeps find
is stated once, for the classes (`classesFit`) and for the case mappings (`mappingsFit`). Main
statements: a cased letter that may stand in an identifier may also begin one, but for the iota
below (`isIdentifierStart_of_isUpper`, `isIdentifierStart_of_isLower`), a digit may not
(`isIdentifierStart_of_isDigit`), lower case makes the beginning of an identifier one again
(`lowerForm_of_isIdentifierStart`), and no change of case brings a character into identifiers
(`isIdentifierContinue_of_lowerForm`, `isIdentifierContinue_of_titleForm`).
-/

namespace ApiBindings.Text

/-! ## Ranges in ranges -/

/-- The first range lies in the second. -/
def within (inner outer : Nat × Nat) : Bool := outer.1 ≤ inner.1 && inner.2 ≤ outer.2

/-- The first of the ranges without what lies in `r` at its beginning. -/
def trimFront (r : Nat × Nat) : List (Nat × Nat) → List (Nat × Nat)
  | [] => []
  | q :: inner => if r.1 ≤ q.1 ∧ q.1 ≤ r.2 then (r.2 + 1, q.2) :: inner else q :: inner

/-- The inner ranges lie in the outer ones, as a sweep along both lists finds: an outer range takes
off the front what lies in it. -/
def covered : List (Nat × Nat) → List (Nat × Nat) → Bool
  | inner, [] => inner.isEmpty
  | inner, r :: outer => covered (trimFront r (inner.dropWhile (within · r))) outer

/-- What is trimmed off lies in the range that takes it off. -/
theorem exists_mem_trimFront (r : Nat × Nat) {inner : List (Nat × Nat)} {q : Nat × Nat}
    (hq : q ∈ inner) {n : Nat} (hn : q.1 ≤ n ∧ n ≤ q.2) :
    (r.1 ≤ n ∧ n ≤ r.2) ∨ ∃ q' ∈ trimFront r inner, q'.1 ≤ n ∧ n ≤ q'.2 := by
  cases inner with
  | nil => exact absurd hq (by simp)
  | cons q₀ inner =>
    by_cases htrim : r.1 ≤ q₀.1 ∧ q₀.1 ≤ r.2
    · rw [trimFront, if_pos htrim]
      rcases List.mem_cons.1 hq with rfl | hq
      · by_cases hr : n ≤ r.2
        · exact Or.inl ⟨by omega, hr⟩
        · exact Or.inr ⟨(r.2 + 1, q.2), by simp, by omega, hn.2⟩
      · exact Or.inr ⟨q, by simp [hq], hn⟩
    · rw [trimFront, if_neg htrim]
      exact Or.inr ⟨q, hq, hn⟩

/-- What a sweep finds covered is covered. -/
theorem exists_mem_of_covered {inner outer : List (Nat × Nat)} (h : covered inner outer = true)
    {q : Nat × Nat} (hq : q ∈ inner) {n : Nat} (hn : q.1 ≤ n ∧ n ≤ q.2) :
    ∃ r ∈ outer, r.1 ≤ n ∧ n ≤ r.2 := by
  induction outer generalizing inner q with
  | nil =>
    have hempty : inner = [] := by simpa [covered] using h
    rw [hempty] at hq
    exact absurd hq (by simp)
  | cons r outer ih =>
    rw [← List.takeWhile_append_dropWhile (p := (within · r)) (l := inner), List.mem_append] at hq
    rcases hq with htaken | hleft
    · have hwithin := List.mem_takeWhile_imp (p := (within · r)) htaken
      simp only [within, Bool.and_eq_true, decide_eq_true_eq] at hwithin
      exact ⟨r, by simp, by omega⟩
    · rcases exists_mem_trimFront r hleft hn with hr | ⟨q', hq', hn'⟩
      · exact ⟨r, by simp, hr⟩
      · obtain ⟨r', hr', hnr⟩ := ih h hq' hn'
        exact ⟨r', by simp [hr'], hnr⟩

/-- Ranges in the order of their first code points. -/
def inOrder (ranges : List (Nat × Nat)) : List (Nat × Nat) :=
  ranges.insertionSort fun r s => r.1 ≤ s.1

/-- A character lies in a class exactly if one of its ranges holds the code point. -/
theorem inRanges_iff {ranges : List (Nat × Nat)} {c : Char} :
    inRanges ranges c = true ↔ ∃ r ∈ ranges, r.1 ≤ c.toNat ∧ c.toNat ≤ r.2 := by
  simp [inRanges]

/-- A character of a range that lies in a class lies in the class. -/
theorem inRanges_of_covered {inner outer : List (Nat × Nat)} (h : covered inner outer = true)
    {q : Nat × Nat} (hq : q ∈ inner) {c : Char} (hc : q.1 ≤ c.toNat ∧ c.toNat ≤ q.2) :
    inRanges outer c = true := by
  exact inRanges_iff.2 (exists_mem_of_covered h hq hc)

/-! ## The gaps between ranges -/

/-- The ranges ascend and begin behind `last`. -/
def ascending : Nat → List (Nat × Nat) → Bool
  | _, [] => true
  | last, r :: ranges => last < r.1 && r.1 ≤ r.2 && ascending r.2 ranges

/-- The code points behind `last` that no range holds, as ranges. -/
def gaps : Nat → List (Nat × Nat) → List (Nat × Nat)
  | last, [] => [(last + 1, 0x10FFFF)]
  | last, r :: ranges => (last + 1, r.1 - 1) :: gaps r.2 ranges

/-- Ranges that ascend and the gaps between them begin behind `last`. -/
theorem lt_of_ascending {last : Nat} {ranges : List (Nat × Nat)}
    (h : ascending last ranges = true) :
    (∀ r ∈ ranges, last < r.1) ∧ ∀ g ∈ gaps last ranges, last < g.1 := by
  induction ranges generalizing last with
  | nil => simp [gaps]
  | cons r ranges ih =>
    simp only [ascending, Bool.and_eq_true, decide_eq_true_eq] at h
    obtain ⟨hranges, hgaps⟩ := ih h.2
    constructor
    · rw [List.forall_mem_cons]
      refine ⟨h.1.1, fun r' hr' => ?_⟩
      have := hranges r' hr'
      omega
    · rw [gaps, List.forall_mem_cons]
      refine ⟨Nat.lt_succ_self last, fun g hg => ?_⟩
      have := hgaps g hg
      omega

/-- No range meets a gap. -/
theorem lt_or_lt_of_mem_gaps {last : Nat} {ranges : List (Nat × Nat)}
    (h : ascending last ranges = true) {g r : Nat × Nat} (hg : g ∈ gaps last ranges)
    (hr : r ∈ ranges) : g.2 < r.1 ∨ r.2 < g.1 := by
  induction ranges generalizing last with
  | nil => exact absurd hr (by simp)
  | cons r' ranges ih =>
    simp only [ascending, Bool.and_eq_true, decide_eq_true_eq] at h
    obtain ⟨hranges, hgaps⟩ := lt_of_ascending h.2
    -- the first gap ends before the first range, and everything else is behind that range
    rcases List.mem_cons.1 hg with rfl | hg <;> rcases List.mem_cons.1 hr with rfl | hr
    · left
      dsimp only
      omega
    · left
      have := hranges r hr
      dsimp only
      omega
    · right
      exact hgaps g hg
    · exact ih h.2 hg hr

/-- A character of a range that lies in the gaps of a class lies outside of the class. -/
theorem inRanges_of_covered_gaps {inner outer : List (Nat × Nat)}
    (hascending : ascending 0 outer = true) (h : covered inner (gaps 0 outer) = true)
    {q : Nat × Nat} (hq : q ∈ inner) {c : Char} (hc : q.1 ≤ c.toNat ∧ c.toNat ≤ q.2) :
    inRanges outer c = false := by
  obtain ⟨g, hg, hcg⟩ := exists_mem_of_covered h hq hc
  rw [← Bool.not_eq_true, inRanges_iff]
  rintro ⟨r, hr, hcr⟩
  have := lt_or_lt_of_mem_gaps hascending hg hr
  omega

/-! ## Strides -/

/-- The code points `first`, `first + step`, …, `last` as ranges: without gaps one range, else each
point for itself. -/
def strideRanges (first last step : Nat) : List (Nat × Nat) :=
  if step = 1 then [(first, last)]
  else (List.range ((last - first) / step + 1)).map fun k => (first + step * k, first + step * k)

/-- A code point that a stride meets lies in one of its ranges. -/
theorem exists_mem_strideRanges {first last step n : Nat} (hfirst : first ≤ n) (hlast : n ≤ last)
    (hstep : (n - first) % step = 0) :
    ∃ q ∈ strideRanges first last step, q.1 ≤ n ∧ n ≤ q.2 := by
  unfold strideRanges
  split
  · exact ⟨(first, last), List.mem_singleton_self _, hfirst, hlast⟩
  · refine ⟨(n, n), List.mem_map.2 ⟨(n - first) / step, ?_, ?_⟩, Nat.le_refl n, Nat.le_refl n⟩
    · rw [List.mem_range]
      have := Nat.div_le_div_right (c := step) (show n - first ≤ last - first by omega)
      omega
    · have hpoint : first + step * ((n - first) / step) = n := by
        have := Nat.mod_add_div (n - first) step
        omega
      rw [hpoint]

/-! ## What the classes say about each other -/

/-- Cased symbols: the spacing iota, and letters in circles and squares. -/
def casedSymbolRanges : List (Nat × Nat) := [
  (0x37A, 0x37A), (0x24B6, 0x24CF), (0x24D0, 0x24E9), (0x1F130, 0x1F149), (0x1F150, 0x1F169),
  (0x1F170, 0x1F189)]

/-- The iota that is written below a letter counts as a small letter, but is a mark. -/
def iotaBelow : Char := '\u0345'

/-- The letters that the strides meet. -/
def letterRanges (strides : List (Nat × Nat × Nat)) : List (Nat × Nat) :=
  strides.flatMap fun s => strideRanges s.1 s.2.1 s.2.2

/-- How the classes lie to each other, as the sweeps along their tables find. -/
structure ClassesFit : Prop where
  startsContinue : covered identifierStartRanges identifierContinueRanges = true
  startsAscend : ascending 0 identifierStartRanges = true
  continuesAscend : ascending 0 identifierContinueRanges = true
  digitsOutside : covered digitRanges (gaps 0 identifierStartRanges) = true
  symbolsOutside : covered casedSymbolRanges (gaps 0 identifierContinueRanges) = true
  capitals : covered (letterRanges upperStrides)
    (inOrder (casedSymbolRanges ++ identifierStartRanges)) = true
  smallLetters : covered (letterRanges lowerStrides)
    (inOrder ([(0x345, 0x345)] ++ (casedSymbolRanges ++ identifierStartRanges))) = true

/-- The tables of the classes are those of the structure. -/
theorem classesFit : ClassesFit where
  startsContinue := by decide +kernel
  startsAscend := by decide +kernel
  continuesAscend := by decide +kernel
  digitsOutside := by decide +kernel
  symbolsOutside := by decide +kernel
  capitals := by decide +kernel
  smallLetters := by decide +kernel

/-- What begins an identifier may also stand behind its beginning. -/
theorem isIdentifierContinue_of_isIdentifierStart {c : Char} (h : isIdentifierStart c = true) :
    isIdentifierContinue c = true := by
  obtain ⟨r, hr, hc⟩ := inRanges_iff.1 h
  exact inRanges_of_covered classesFit.startsContinue hr hc

/-- No digit begins an identifier. -/
theorem isIdentifierStart_of_isDigit {c : Char} (h : isDigit c = true) :
    isIdentifierStart c = false := by
  obtain ⟨r, hr, hc⟩ := inRanges_iff.1 h
  exact inRanges_of_covered_gaps classesFit.startsAscend classesFit.digitsOutside hr hc

/-- No identifier holds a cased symbol. -/
theorem isIdentifierContinue_of_casedSymbol {c : Char} (h : inRanges casedSymbolRanges c = true) :
    isIdentifierContinue c = false := by
  obtain ⟨r, hr, hc⟩ := inRanges_iff.1 h
  exact inRanges_of_covered_gaps classesFit.continuesAscend classesFit.symbolsOutside hr hc

/-- A letter of the strides lies in every class in which they lie. -/
theorem inRanges_of_inStrides {strides : List (Nat × Nat × Nat)} {ranges : List (Nat × Nat)}
    (h : covered (letterRanges strides) ranges = true) {c : Char}
    (hc : inStrides strides c = true) : inRanges ranges c = true := by
  obtain ⟨s, hs, hmet⟩ := List.any_eq_true.1 hc
  simp only [Bool.and_eq_true, decide_eq_true_eq, beq_iff_eq] at hmet
  obtain ⟨⟨hfirst, hlast⟩, hstep⟩ := hmet
  obtain ⟨q, hq, hcq⟩ := exists_mem_strideRanges hfirst hlast hstep
  exact inRanges_of_covered h (List.mem_flatMap.2 ⟨s, hs, hq⟩) hcq

/-- The order of the ranges does not matter to a class. -/
theorem inRanges_inOrder (ranges : List (Nat × Nat)) (c : Char) :
    inRanges (inOrder ranges) c = inRanges ranges c :=
  (List.perm_insertionSort _ ranges).any_eq

/-- A character of two classes put together lies in one of them. -/
theorem inRanges_append (ranges others : List (Nat × Nat)) (c : Char) :
    inRanges (ranges ++ others) c = (inRanges ranges c || inRanges others c) :=
  List.any_append

/-- A capital that may stand in an identifier may begin one. -/
theorem isIdentifierStart_of_isUpper {c : Char} (h : isUpper c = true)
    (hc : isIdentifierContinue c = true) : isIdentifierStart c = true := by
  have hin := inRanges_of_inStrides classesFit.capitals h
  rw [inRanges_inOrder, inRanges_append, Bool.or_eq_true] at hin
  rcases hin with hsymbol | hstart
  · rw [isIdentifierContinue_of_casedSymbol hsymbol] at hc
    exact absurd hc (by decide)
  · exact hstart

/-- A small letter that may stand in an identifier may begin one, but for the iota below. -/
theorem isIdentifierStart_of_isLower {c : Char} (h : isLower c = true)
    (hc : isIdentifierContinue c = true) (hiota : c ≠ iotaBelow) : isIdentifierStart c = true := by
  have hin := inRanges_of_inStrides classesFit.smallLetters h
  rw [inRanges_inOrder, inRanges_append, inRanges_append, Bool.or_eq_true, Bool.or_eq_true] at hin
  rcases hin with hmark | hsymbol | hstart
  · obtain ⟨r, hr, hcr⟩ := inRanges_iff.1 hmark
    obtain rfl := List.mem_singleton.1 hr
    have hnat : c.toNat = iotaBelow.toNat := Nat.le_antisymm hcr.2 hcr.1
    exact absurd (Char.toNat_inj.1 hnat) hiota
  · rw [isIdentifierContinue_of_casedSymbol hsymbol] at hc
    exact absurd hc (by decide)
  · exact hstart

/-! ## Changes of case -/

/-- The range from the first to the last letter of a run. -/
def CaseRun.extent (r : CaseRun) : Nat × Nat := (r.first, r.last)

/-- The letters of a run. -/
def CaseRun.letters (r : CaseRun) : List (Nat × Nat) := strideRanges r.first r.last r.step

/-- The range that holds the images of the letters of a run. -/
def CaseRun.images (r : CaseRun) : Nat × Nat := (r.image, r.image + (r.last - r.first))

/-- A letter that a run covers is one of its letters. -/
theorem CaseRun.exists_mem_letters {r : CaseRun} {n : Nat} (h : r.covers n = true) :
    ∃ q ∈ r.letters, q.1 ≤ n ∧ n ≤ q.2 := by
  simp only [CaseRun.covers, Bool.and_eq_true, decide_eq_true_eq, beq_iff_eq] at h
  exact exists_mem_strideRanges h.1.1 h.1.2 h.2

/-- The image of a letter that a run covers is one of its images. -/
theorem CaseRun.mem_images {r : CaseRun} {n : Nat} (h : r.covers n = true) :
    r.images.1 ≤ r.image + (n - r.first) ∧ r.image + (n - r.first) ≤ r.images.2 := by
  simp only [CaseRun.covers, Bool.and_eq_true, decide_eq_true_eq] at h
  show r.image ≤ _ ∧ _ ≤ r.image + (r.last - r.first)
  omega

/-- The run maps cased symbols. -/
def CaseRun.mapsSymbols (r : CaseRun) : Bool := casedSymbolRanges.any (within r.extent ·)

/-- What a run of cased symbols covers is one. -/
theorem CaseRun.inRanges_of_mapsSymbols {r : CaseRun} (h : r.mapsSymbols = true) {c : Char}
    (hc : r.covers c.toNat = true) : inRanges casedSymbolRanges c = true := by
  obtain ⟨q, hq, hwithin⟩ := List.any_eq_true.1 h
  have hextent : q.1 ≤ r.extent.1 ∧ r.extent.2 ≤ q.2 := by simpa [within] using hwithin
  have hsymbols : q.1 ≤ r.first ∧ r.last ≤ q.2 := hextent
  simp only [CaseRun.covers, Bool.and_eq_true, decide_eq_true_eq] at hc
  exact inRanges_iff.2 ⟨q, hq, by omega⟩

/-- The mapping takes no character from outside of identifiers into them: what it changes may stand
in identifiers, or is a cased symbol that becomes one again. -/
def keepsOutside (spellings : List (Nat × List Nat)) (runs : List CaseRun) : Bool :=
  covered (spellings.map fun p => (p.1, p.1)) identifierContinueRanges &&
  covered ((runs.filter (!·.mapsSymbols)).flatMap CaseRun.letters) identifierContinueRanges &&
  covered ((runs.filter (·.mapsSymbols)).map CaseRun.images) casedSymbolRanges

/-- The form of several letters begins an identifier. -/
def beginsIdentifier : List Nat → Bool
  | [] => false
  | n :: ns =>
    isIdentifierStart (Char.ofNat n) && ns.all fun m => isIdentifierContinue (Char.ofNat m)

/-- The code points of the range are those of characters. -/
def holdsCharacters (r : Nat × Nat) : Bool :=
  r.2 < 0xD800 || (0xDFFF < r.1 && r.2 < 0x110000)

/-- What the case mappings do to the classes, as the sweeps along their tables find. -/
structure MappingsFit : Prop where
  spellings : (lowerSpellings.all fun p => beginsIdentifier p.2) = true
  images : covered (inOrder ((lowerRuns.filter (!·.mapsSymbols)).map CaseRun.images))
    identifierStartRanges = true
  startsHoldCharacters : identifierStartRanges.all holdsCharacters = true
  noDigitSpelled : (lowerSpellings.all fun p => !isDigit (Char.ofNat p.1)) = true
  runsAscend : ascending 0 (lowerRuns.map CaseRun.extent) = true
  digitsOutside : covered digitRanges (gaps 0 (lowerRuns.map CaseRun.extent)) = true
  nulOutside : isIdentifierContinue (Char.ofNat 0) = false
  lowerOutside : keepsOutside lowerSpellings lowerRuns = true
  titleOutside : keepsOutside titleSpellings titleRuns = true

/-- The tables of the case mappings are those of the structure. -/
theorem mappingsFit : MappingsFit where
  spellings := by decide +kernel
  images := by decide +kernel
  startsHoldCharacters := by decide +kernel
  noDigitSpelled := by decide +kernel
  runsAscend := by decide +kernel
  digitsOutside := by decide +kernel
  nulOutside := by decide +kernel
  lowerOutside := by decide +kernel
  titleOutside := by decide +kernel

/-- The lower-case form of what begins an identifier is the beginning of one. -/
theorem lowerForm_of_isIdentifierStart {c : Char} (h : isIdentifierStart c = true) :
    ∃ d ds, lowerForm c = d :: ds ∧ isIdentifierStart d = true ∧
      ∀ e ∈ ds, isIdentifierContinue e = true := by
  unfold lowerForm caseForm
  split
  · -- a form of several letters
    rename_i form hform
    obtain ⟨l₁, l₂, hl, -⟩ := List.lookup_eq_some_iff.mp hform
    have hspelling := List.all_eq_true.1 mappingsFit.spellings (c.toNat, form) (by simp [hl])
    cases form with
    | nil => exact absurd hspelling (by simp [beginsIdentifier])
    | cons n ns =>
      simp only [beginsIdentifier, Bool.and_eq_true, List.all_eq_true] at hspelling
      refine ⟨Char.ofNat n, ns.map Char.ofNat, rfl, hspelling.1, ?_⟩
      intro e he
      obtain ⟨m, hm, rfl⟩ := List.mem_map.1 he
      exact hspelling.2 m hm
  · split
    · -- a letter of a run: all images of the run begin identifiers, or it would be a symbol
      rename_i r hr
      have hcovers := List.find?_some hr
      have hsymbols : r.mapsSymbols = false := by
        by_contra hmaps
        have hsymbol := CaseRun.inRanges_of_mapsSymbols (by simpa using hmaps) hcovers
        have hout := isIdentifierContinue_of_casedSymbol hsymbol
        rw [isIdentifierContinue_of_isIdentifierStart h] at hout
        exact absurd hout (by decide)
      refine ⟨_, [], rfl, ?_, by simp⟩
      have himages : r.images ∈ (lowerRuns.filter (!·.mapsSymbols)).map CaseRun.images :=
        List.mem_map_of_mem (List.mem_filter.2 ⟨List.mem_of_find?_eq_some hr, by simp [hsymbols]⟩)
      obtain ⟨q, hq, himage⟩ := exists_mem_of_covered mappingsFit.images
        ((List.mem_insertionSort _).2 himages) (CaseRun.mem_images hcovers)
      have hcode := List.all_eq_true.1 mappingsFit.startsHoldCharacters q hq
      simp only [holdsCharacters, Bool.or_eq_true, Bool.and_eq_true, decide_eq_true_eq] at hcode
      have hn : (r.image + (c.toNat - r.first)).isValidChar := by
        unfold Nat.isValidChar
        omega
      have hnat : (Char.ofNat (r.image + (c.toNat - r.first))).toNat
          = r.image + (c.toNat - r.first) := by
        rw [Char.ofNat, dif_pos hn]
        rfl
      refine inRanges_iff.2 ⟨q, hq, ?_⟩
      rw [hnat]
      exact himage
    · exact ⟨c, [], rfl, h, by simp⟩

/-- A digit has no lower-case form but itself. -/
theorem lowerForm_of_isDigit {c : Char} (h : isDigit c = true) : lowerForm c = [c] := by
  unfold lowerForm caseForm
  split
  · rename_i form hform
    obtain ⟨l₁, l₂, hl, -⟩ := List.lookup_eq_some_iff.mp hform
    have hspelling := List.all_eq_true.1 mappingsFit.noDigitSpelled (c.toNat, form) (by simp [hl])
    simp [h] at hspelling
  · split
    · rename_i r hr
      have hcovers := List.find?_some hr
      simp only [CaseRun.covers, Bool.and_eq_true, decide_eq_true_eq] at hcovers
      have hin : inRanges (lowerRuns.map CaseRun.extent) c = true :=
        inRanges_iff.2 ⟨r.extent, List.mem_map_of_mem (List.mem_of_find?_eq_some hr), hcovers.1⟩
      obtain ⟨q, hq, hc⟩ := inRanges_iff.1 h
      rw [inRanges_of_covered_gaps mappingsFit.runsAscend mappingsFit.digitsOutside hq hc] at hin
      exact absurd hin (by decide)
    · rfl

/-- Under such a mapping only characters that may stand in identifiers have forms that may. -/
theorem isIdentifierContinue_of_caseForm {spellings : List (Nat × List Nat)} {runs : List CaseRun}
    (h : keepsOutside spellings runs = true) {c : Char}
    (hform : ∀ d ∈ caseForm spellings runs c, isIdentifierContinue d = true) :
    isIdentifierContinue c = true := by
  simp only [keepsOutside, Bool.and_eq_true] at h
  obtain ⟨⟨hspellings, hletters⟩, hsymbols⟩ := h
  unfold caseForm at hform
  split at hform
  · rename_i form hlookup
    obtain ⟨l₁, l₂, hl, -⟩ := List.lookup_eq_some_iff.mp hlookup
    have hmem : (c.toNat, c.toNat) ∈ spellings.map fun p => (p.1, p.1) :=
      List.mem_map.2 ⟨(c.toNat, form), by simp [hl], rfl⟩
    exact inRanges_of_covered hspellings hmem ⟨Nat.le_refl _, Nat.le_refl _⟩
  · split at hform
    · rename_i r hr
      have hcovers := List.find?_some hr
      have hrun := List.mem_of_find?_eq_some hr
      have hd := hform _ (List.mem_singleton.2 rfl)
      cases hmaps : r.mapsSymbols with
      | false =>
        obtain ⟨q, hq, hcq⟩ := CaseRun.exists_mem_letters hcovers
        have hmem : q ∈ (runs.filter (!·.mapsSymbols)).flatMap CaseRun.letters :=
          List.mem_flatMap.2 ⟨r, List.mem_filter.2 ⟨hrun, by simp [hmaps]⟩, hq⟩
        exact inRanges_of_covered hletters hmem hcq
      | true =>
        -- the image would be a cased symbol in an identifier
        have hnul : (Char.ofNat (r.image + (c.toNat - r.first))).toNat ≠ 0 := by
          intro hzero
          have hchar : Char.ofNat (r.image + (c.toNat - r.first)) = Char.ofNat 0 :=
            Char.toNat_inj.1 hzero
          rw [hchar, mappingsFit.nulOutside] at hd
          exact absurd hd (by decide)
        have hnat := toNat_of_ofNat_eq hnul rfl
        have hmem : r.images ∈ (runs.filter (·.mapsSymbols)).map CaseRun.images :=
          List.mem_map_of_mem (List.mem_filter.2 ⟨hrun, hmaps⟩)
        have himage := CaseRun.mem_images hcovers
        rw [hnat] at himage
        rw [isIdentifierContinue_of_casedSymbol (inRanges_of_covered hsymbols hmem himage)] at hd
        exact absurd hd (by decide)
    · exact hform c (List.mem_singleton.2 rfl)

/-- A character whose lower-case form may stand in an identifier may stand there itself. -/
theorem isIdentifierContinue_of_lowerForm {c : Char}
    (h : ∀ d ∈ lowerForm c, isIdentifierContinue d = true) : isIdentifierContinue c = true :=
  isIdentifierContinue_of_caseForm mappingsFit.lowerOutside h

/-- A character whose title-case form may stand in an identifier may stand there itself. -/
theorem isIdentifierContinue_of_titleForm {c : Char}
    (h : ∀ d ∈ titleForm c, isIdentifierContinue d = true) : isIdentifierContinue c = true :=
  isIdentifierContinue_of_caseForm mappingsFit.titleOutside h

end ApiBindings.Text
