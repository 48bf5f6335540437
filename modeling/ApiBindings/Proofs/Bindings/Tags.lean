import ApiBindings.Proofs.Bindings.Display
import ApiBindings.Proofs.Naming.Numbering
/-!
# Tags of a union

The tags of a union are its numbered labels, with an underscore behind those that would take a name
from the class. Both the number and the underscore may lead to a tag that another case has already.
Main statement: the tags of a union differ exactly if neither happens, and then the class, read
line by line, encodes each tag by the type that it decodes it by (`nodup_tagsOf_iff`).
-/

namespace ApiBindings.Bindings

open Text
open Naming (variantLabels baseLabels ordinal occurrences OrdinalsApart endsPlainly isIdentifier)

/-! ## Reserved names -/

/-- No reserved name ends in an underscore. -/
theorem escapeReserved_append_underscore (label : String) :
    escapeReserved (label ++ "_") = label ++ "_" := by
  have hend : ∀ w ∈ reservedNames, w.toList.getLast? ≠ some '_' := by decide
  have hreserved : reservedNames.contains (label ++ "_") = false := by
    cases h : reservedNames.contains (label ++ "_") with
    | false => rfl
    | true => exact absurd (by simp) (hend (label ++ "_") (by simpa using h))
  unfold escapeReserved
  simp only [hreserved, Bool.false_eq_true, ↓reduceIte]

/-- Escaped labels differ exactly if the labels differ and none of them is another, reserved one
with an underscore. -/
theorem nodup_map_escapeReserved_iff (labels : List String) :
    (labels.map escapeReserved).Nodup ↔
      labels.Nodup ∧ ∀ w ∈ reservedNames, w ∈ labels → w ++ "_" ∉ labels := by
  have hescape : ∀ w ∈ reservedNames, escapeReserved w = w ++ "_" := by
    intro w hw
    have hcontains : reservedNames.contains w = true := by simpa using hw
    unfold escapeReserved
    simp only [hcontains, ↓reduceIte]
  have hkeep : ∀ l, l ∉ reservedNames → escapeReserved l = l := by
    intro l hl
    have hcontains : reservedNames.contains l = false := by simpa using hl
    unfold escapeReserved
    simp only [hcontains, Bool.false_eq_true, ↓reduceIte]
  constructor
  · intro h
    refine ⟨h.of_map, ?_⟩
    intro w hw hmem hmem'
    -- the reserved label and the one with the underscore would be escaped to one tag
    have hsame : escapeReserved w = escapeReserved (w ++ "_") := by
      rw [hescape w hw, escapeReserved_append_underscore]
    have heq := List.inj_on_of_nodup_map h hmem hmem' hsame
    exact absurd (congrArg String.length heq) (by simp)
  · rintro ⟨hnodup, hapart⟩
    rw [List.nodup_map_iff_inj_on hnodup]
    intro a ha b hb hab
    -- with one of them reserved the other would be what `hapart` excludes
    by_cases hra : a ∈ reservedNames <;> by_cases hrb : b ∈ reservedNames
    · rw [hescape a hra, hescape b hrb] at hab
      exact (String.append_left_inj _).mp hab
    · rw [hescape a hra, hkeep b hrb] at hab
      exact absurd (hab ▸ hb) (hapart a hra ha)
    · rw [hkeep a hra, hescape b hrb] at hab
      exact absurd (hab ▸ ha) (hapart b hrb hb)
    · rwa [hkeep a hra, hkeep b hrb] at hab

/-! ## Characters of tags -/

/-- What is kept out of a case is kept out of its label. -/
theorem not_mem_label {c : Char} (hc : IsApart c) (cut : Naming.Cut) {case : List Char}
    (h : c ∉ case) : c ∉ (cut.label case).toList := by
  have hstem : c ∉ cut.stem case := fun hmem =>
    h (List.mem_of_mem_take (List.mem_of_mem_drop hmem))
  have hsmall : c ∉ Naming.uncapitalize (cut.stem case) := by
    cases hs : cut.stem case with
    | nil => simp [Naming.uncapitalize]
    | cons d ds =>
      rw [hs, List.mem_cons, not_or] at hstem
      rw [Naming.uncapitalize, List.mem_append, not_or]
      refine ⟨not_mem_lowerAfter hc.unmade ?_, hstem.2⟩
      simpa using hstem.1
  apply Naming.not_mem_escapeKeyword hc.ne_underscore
  rw [String.toList_ofList]
  split
  · exact h
  · exact hsmall

/-- What is kept out of a label is kept out of its numbered forms. -/
theorem not_mem_ordinal {c : Char} (hc : IsApart c) {label : String} (h : c ∉ label.toList)
    (n : Nat) : c ∉ (ordinal label n).toList := by
  unfold ordinal
  split
  · exact h
  · rw [String.toList_append, List.mem_append, not_or, Nat.toString_eq_repr, Nat.toList_repr]
    refine ⟨h, fun hdigit => ?_⟩
    have := Nat.isDigit_of_mem_toDigits (by decide) (by decide) hdigit
    rw [hc.notDigit] at this
    exact absurd this (by decide)

/-- A numbered label is what an occurrence of a label is called. -/
theorem exists_of_mem_variantLabels {cases : List String} {l : String}
    (h : l ∈ variantLabels cases) :
    ∃ b ∈ baseLabels cases, ∃ n, 1 ≤ n ∧ n ≤ (baseLabels cases).count b ∧ l = ordinal b n := by
  rw [variantLabels, Naming.numberedAfter_eq_map_ordinal] at h
  obtain ⟨⟨b, n⟩, hmem, rfl⟩ := List.mem_map.mp h
  rw [Naming.mem_occurrences, List.count_nil] at hmem
  exact ⟨b, List.count_pos_iff.mp (by omega), n, by omega, by omega, rfl⟩

/-- The tags of a union whose cases are identifiers hold no delimiter. -/
theorem delimiter_not_mem_of_mem_tagsOf {u : Union}
    (identifiers : ∀ case ∈ u.cases, isIdentifier case = true) {tag : String}
    (htag : tag ∈ tagsOf u) {c : Char} (hc : c ∈ delimiters) : c ∉ tag.toList := by
  have hapart := delimiters_apart c hc
  obtain ⟨l, hl, rfl⟩ := List.mem_map.mp htag
  obtain ⟨b, hb, n, -, -, rfl⟩ := exists_of_mem_variantLabels hl
  have hbase : c ∉ b.toList := by
    rw [baseLabels, List.mem_map] at hb
    obtain ⟨case, hcase, rfl⟩ := hb
    obtain ⟨name, hname, rfl⟩ := List.mem_map.mp hcase
    exact not_mem_label hapart _ (delimiter_not_mem_of_isIdentifier (identifiers name hname) hc)
  have hnumbered := not_mem_ordinal hapart hbase n
  unfold escapeReserved
  split
  · rw [String.toList_append, List.mem_append, not_or]
    exact ⟨hnumbered, by simpa using hapart.ne_underscore⟩
  · exact hnumbered

/-! ## Reading the class -/

/-- What a line holds behind an opening and before an ending. -/
def between (opening ending line : String) : Option (List Char) := do
  let s ← dropStart? opening.toList line.toList
  let s ← dropStart? ending.toList.reverse s.reverse
  some s.reverse

/-- The pair that a row of the decode table holds. -/
def readRow (line : String) : Option (String × String) := do
  let (tag, s) ← readQuoted (← between "\t\t\t(" ")," line)
  let payload ← dropStart? [',', ' '] s
  some (tag, String.ofList payload)

/-- The tag that a line of the encoder tests for. -/
def readTest (line : String) : Option String := do
  let (tag, s) ← readQuoted (← between "\t\tif self.tag == " ":" line)
  if s.isEmpty then some tag else none

/-- The type that a line of the encoder dumps by. -/
def readDump (line : String) : Option String :=
  (between "\t\t\treturn dump_as(" ", self.value)" line).map String.ofList

/-- The name of the method that a line defines. -/
def readMethod (line : String) : Option String :=
  (dropStart? "\tdef ".toList line.toList).map fun s => String.ofList (s.takeWhile (· != '('))

/-- The tags with the types that a class decodes them by. -/
def decodeTable (lines : List String) : List (String × String) := lines.filterMap readRow

/-- The tags with the types that a class encodes them by: each test goes with the type behind it. -/
def encodeTable (lines : List String) : List (String × String) :=
  (lines.filterMap readTest).zip (lines.filterMap readDump)

/-- What stands between an opening and an ending is found there. -/
theorem between_append (opening ending middle : String) :
    between opening ending (opening ++ middle ++ ending) = some middle.toList := by
  unfold between
  rw [String.append_assoc, String.toList_append, dropStart?_eq_some_iff.2 rfl]
  simp only [bind, Option.bind_some]
  rw [String.toList_append, List.reverse_append, dropStart?_eq_some_iff.2 rfl]
  simp

/-- A row of the decode table is read back. -/
theorem readRow_decodeRow {v : String × String} (h : v.1.toList.all isPlain = true) :
    readRow (decodeRow v) = some v := by
  have hline : decodeRow v = "\t\t\t(" ++ ("\"" ++ v.1 ++ "\", " ++ v.2) ++ ")," := by
    rw [← String.toList_inj]
    simp [decodeRow]
  have hmiddle : ("\"" ++ v.1 ++ "\", " ++ v.2).toList
      = '"' :: (v.1.toList ++ '"' :: ([',', ' '] ++ v.2.toList)) := by
    simp
  unfold readRow
  rw [hline, between_append, hmiddle]
  simp only [bind, Option.bind_some]
  rw [readQuoted_quoted h]
  simp only [Option.bind_some]
  rw [dropStart?_eq_some_iff.2 rfl]
  simp

/-- A branch of the encoder is read back. -/
theorem filterMap_encodeBranch {v : String × String} (h : v.1.toList.all isPlain = true) :
    (encodeBranch v).filterMap readTest = [v.1] ∧ (encodeBranch v).filterMap readDump = [v.2] := by
  have htest : "\t\tif self.tag == \"" ++ v.1 ++ "\":"
      = "\t\tif self.tag == " ++ ("\"" ++ v.1 ++ "\"") ++ ":" := by
    rw [← String.toList_inj]
    simp
  have htag : ("\"" ++ v.1 ++ "\"").toList = '"' :: (v.1.toList ++ '"' :: []) := by simp
  have hread : readTest ("\t\tif self.tag == \"" ++ v.1 ++ "\":") = some v.1 := by
    unfold readTest
    rw [htest, between_append, htag]
    simp only [bind, Option.bind_some]
    rw [readQuoted_quoted h]
    rfl
  have hdump : readDump ("\t\t\treturn dump_as(" ++ v.2 ++ ", self.value)") = some v.2 := by
    unfold readDump
    rw [between_append]
    simp
  have hnotest : readTest ("\t\t\treturn dump_as(" ++ v.2 ++ ", self.value)") = none := by
    simp [readTest, between, dropStart?]
  have hnodump : readDump ("\t\tif self.tag == \"" ++ v.1 ++ "\":") = none := by
    simp [readDump, between, dropStart?]
  constructor
  · simp [encodeBranch, hread, hnotest]
  · simp [encodeBranch, hdump, hnodump]

/-- The lines of a constructor define one method, named after the tag. -/
theorem filterMap_constructorLines (name : String) {v : String × String}
    (h : '(' ∉ v.1.toList) : (constructorLines name v).filterMap readMethod = [v.1] := by
  have hname : ∀ c ∈ v.1.toList, (c != '(') = true := by
    intro c hc
    have hne : c ≠ '(' := fun he => h (he ▸ hc)
    simpa using hne
  have hdef : readMethod
      ("\tdef " ++ v.1 ++ "(cls, " ++ v.1 ++ ": " ++ v.2 ++ ") -> " ++ name ++ ":") = some v.1 := by
    have hline :
        ("\tdef " ++ v.1 ++ "(cls, " ++ v.1 ++ ": " ++ v.2 ++ ") -> " ++ name ++ ":").toList
        = "\tdef ".toList ++ (v.1.toList ++ '(' :: ("cls, ".toList ++ v.1.toList ++ ": ".toList ++
          v.2.toList ++ ") -> ".toList ++ name.toList ++ ":".toList)) := by
      simp
    unfold readMethod
    rw [hline, dropStart?_eq_some_iff.2 rfl, Option.map_some, takeWhile_stop hname (by decide),
      String.ofList_toList]
  have hreturn : readMethod ("\t\treturn cls(\"" ++ v.1 ++ "\", " ++ v.1 ++ ")") = none := by
    simp [readMethod, dropStart?]
  have hempty : readMethod "" = none := by decide
  have hdecorator : readMethod "\t@classmethod" = none := by decide
  simp [constructorLines, hdef, hreturn, hempty, hdecorator]

/-! ## The lines of the class -/

section Lines

variable (n : Names) (fast : Bool) {u : Union}

/-- Each case has a tag. -/
theorem length_tagsOf (u : Union) : (tagsOf u).length = u.cases.length := by
  rw [tagsOf, List.length_map, Naming.length_variantLabels]

/-- Each tag has a type. -/
theorem map_fst_variantsOf (u : Union) : (variantsOf n u).map Prod.fst = tagsOf u := by
  unfold variantsOf
  rw [List.map_fst_zip]
  simp [length_tagsOf]

/-- The types of the variants are the written names of the cases. -/
theorem map_snd_variantsOf (u : Union) :
    (variantsOf n u).map Prod.snd = u.cases.map n.scalar := by
  unfold variantsOf
  rw [List.map_snd_zip]
  simp [length_tagsOf]

/-- Every variant of a union whose cases are identifiers has a plain tag. -/
theorem all_isPlain_of_mem_variantsOf (identifiers : ∀ case ∈ u.cases, isIdentifier case = true)
    {v : String × String} (hv : v ∈ variantsOf n u) :
    v.1.toList.all isPlain = true ∧ '(' ∉ v.1.toList := by
  have htag : v.1 ∈ tagsOf u := by
    rw [← map_fst_variantsOf n u]
    exact List.mem_map_of_mem hv
  constructor
  · apply all_isPlain
    intro c hc
    exact delimiter_not_mem_of_mem_tagsOf identifiers htag hc
  · exact delimiter_not_mem_of_mem_tagsOf identifiers htag (by decide)

/-- What is read from lines written for each variant is what is read for each. -/
theorem filterMap_flatMap_eq {α β : Type} {vs : List α} {write : α → List String}
    {read : String → Option β} {out : α → List β}
    (h : ∀ v ∈ vs, (write v).filterMap read = out v) :
    (vs.flatMap write).filterMap read = vs.flatMap out := by
  rw [List.filterMap_flatMap]
  induction vs with
  | nil => rfl
  | cons v vs ih =>
    rw [List.forall_mem_cons] at h
    rw [List.flatMap_cons, List.flatMap_cons, h.1, ih h.2]

/-- A row of the decode table is read as nothing else. -/
theorem decodeRow_only (v : String × String) :
    readTest (decodeRow v) = none ∧ readDump (decodeRow v) = none ∧
      readMethod (decodeRow v) = none := by
  simp [readTest, readDump, readMethod, between, dropStart?, decodeRow]

/-- A branch of the encoder is read as nothing else. -/
theorem encodeBranch_only (v : String × String) :
    (encodeBranch v).filterMap readRow = [] ∧ (encodeBranch v).filterMap readMethod = [] := by
  simp [readRow, readMethod, between, dropStart?, encodeBranch]

/-- A constructor is read as nothing else. -/
theorem constructorLines_only (name : String) (v : String × String) :
    (constructorLines name v).filterMap readRow = [] ∧
      (constructorLines name v).filterMap readTest = [] ∧
      (constructorLines name v).filterMap readDump = [] := by
  simp [readRow, readTest, readDump, between, dropStart?, constructorLines]

/-- The decode table of the class pairs the tags with the types of their cases. -/
theorem decodeTable_unionLines (identifiers : ∀ case ∈ u.cases, isIdentifier case = true) :
    decodeTable (unionLines n fast u) = variantsOf n u := by
  have hrows : ((variantsOf n u).map decodeRow).filterMap readRow = variantsOf n u := by
    rw [List.filterMap_map]
    refine Eq.trans (List.filterMap_congr ?_) List.filterMap_some
    intro v hv
    exact readRow_decodeRow (all_isPlain_of_mem_variantsOf n identifiers hv).1
  have hbranches : ((variantsOf n u).flatMap encodeBranch).filterMap readRow = [] := by
    rw [filterMap_flatMap_eq fun v _ => (encodeBranch_only v).1]
    simp
  have hconstructors : ((variantsOf n u).flatMap (constructorLines u.name)).filterMap readRow
      = [] := by
    rw [filterMap_flatMap_eq fun v _ => (constructorLines_only u.name v).1]
    simp
  unfold decodeTable unionLines
  simp only [List.filterMap_append, hrows, hbranches]
  cases fast <;> simp [hconstructors, readRow, between, dropStart?, tripleQuoted]

/-- The encoder of the class tests for the tags in their order and dumps by the types of their
cases. -/
theorem encodeTable_unionLines (identifiers : ∀ case ∈ u.cases, isIdentifier case = true) :
    encodeTable (unionLines n fast u) = variantsOf n u := by
  have hplain := fun v hv => (all_isPlain_of_mem_variantsOf n identifiers (v := v) hv).1
  have htests : (unionLines n fast u).filterMap readTest = (variantsOf n u).map Prod.fst := by
    have hrows : ((variantsOf n u).map decodeRow).filterMap readTest = [] := by
      simp [decodeRow_only]
    have hbranches : ((variantsOf n u).flatMap encodeBranch).filterMap readTest
        = (variantsOf n u).map Prod.fst := by
      rw [filterMap_flatMap_eq fun v hv => (filterMap_encodeBranch (hplain v hv)).1]
      exact List.flatMap_pure_eq_map Prod.fst _
    have hconstructors : ((variantsOf n u).flatMap (constructorLines u.name)).filterMap readTest
        = [] := by
      rw [filterMap_flatMap_eq fun v _ => (constructorLines_only u.name v).2.1]
      simp
    unfold unionLines
    simp only [List.filterMap_append, hrows, hbranches]
    cases fast <;> simp [hconstructors, readTest, between, dropStart?, tripleQuoted]
  have hdumps : (unionLines n fast u).filterMap readDump = (variantsOf n u).map Prod.snd := by
    have hrows : ((variantsOf n u).map decodeRow).filterMap readDump = [] := by
      simp [decodeRow_only]
    have hbranches : ((variantsOf n u).flatMap encodeBranch).filterMap readDump
        = (variantsOf n u).map Prod.snd := by
      rw [filterMap_flatMap_eq fun v hv => (filterMap_encodeBranch (hplain v hv)).2]
      exact List.flatMap_pure_eq_map Prod.snd _
    have hconstructors : ((variantsOf n u).flatMap (constructorLines u.name)).filterMap readDump
        = [] := by
      rw [filterMap_flatMap_eq fun v _ => (constructorLines_only u.name v).2.2]
      simp
    unfold unionLines
    simp only [List.filterMap_append, hrows, hbranches]
    cases fast <;> simp [hconstructors, readDump, between, dropStart?, tripleQuoted]
  rw [encodeTable, htests, hdumps]
  exact (List.zip_of_prod rfl rfl).symm

/-- The methods of the class are the decoder, the encoder and, if wanted, a constructor for each
tag. -/
theorem filterMap_readMethod_unionLines
    (identifiers : ∀ case ∈ u.cases, isIdentifier case = true) :
    (unionLines n fast u).filterMap readMethod
      = ["decode", "encode"] ++ if fast then tagsOf u else [] := by
  have hrows : ((variantsOf n u).map decodeRow).filterMap readMethod = [] := by
    simp [decodeRow_only]
  have hbranches : ((variantsOf n u).flatMap encodeBranch).filterMap readMethod = [] := by
    rw [filterMap_flatMap_eq fun v _ => (encodeBranch_only v).2]
    simp
  have hconstructors : ((variantsOf n u).flatMap (constructorLines u.name)).filterMap readMethod
      = tagsOf u := by
    rw [filterMap_flatMap_eq fun v hv => filterMap_constructorLines u.name
      (all_isPlain_of_mem_variantsOf n identifiers hv).2, ← map_fst_variantsOf n u]
    exact List.flatMap_pure_eq_map Prod.fst _
  unfold unionLines
  simp only [List.filterMap_append, hrows, hbranches]
  cases fast <;> simp [hconstructors, readMethod, dropStart?, tripleQuoted, List.takeWhile]

end Lines

/-! ## When tags differ -/

/-- The tags differ exactly if no occurrence of a label is called like another label's and no label
is another, reserved one with an underscore. -/
theorem nodup_tagsOf_iff_apart (u : Union) :
    (tagsOf u).Nodup ↔ OrdinalsApart (baseLabels u.cases) ∧
      ∀ w ∈ reservedNames, w ∈ variantLabels u.cases → w ++ "_" ∉ variantLabels u.cases := by
  rw [tagsOf, nodup_map_escapeReserved_iff]
  exact and_congr_left' (Naming.nodup_numberedAfter_iff (baseLabels u.cases))

/-- Labels that neither end in a digit nor are a reserved name with an underscore lead to different
tags. -/
theorem nodup_tagsOf_of_endsPlainly {u : Union}
    (hplain : ∀ l ∈ baseLabels u.cases, endsPlainly l = true)
    (hreserved : ∀ w ∈ reservedNames, w ++ "_" ∉ baseLabels u.cases) : (tagsOf u).Nodup := by
  rw [nodup_tagsOf_iff_apart]
  refine ⟨Naming.ordinalsApart_of_endsPlainly hplain, ?_⟩
  intro w hw _ hmem
  obtain ⟨b, hb, n, -, -, hcalled⟩ := exists_of_mem_variantLabels hmem
  -- taking the digits off the end leaves the underscore where it is
  have hunderscore : endsPlainly (w ++ "_") = true := by simp [endsPlainly]
  have hbase : (w ++ "_").toList.reverse = b.toList.reverse := by
    rw [← Naming.dropWhile_ordinal (hplain b hb) n, ← hcalled]
    have hself := Naming.dropWhile_ordinal hunderscore 1
    exact hself.symm
  have heq : w ++ "_" = b := String.toList_inj.mp (List.reverse_injective hbase)
  exact hreserved w hw (heq ▸ hb)

/-- **When the tags of a union are unique.** Let the cases of a union be identifiers. Its tags
differ exactly if no occurrence of a label is called like an occurrence of another and no label is
another, reserved one with an underscore; labels that do not end in a digit and are no reserved
name with an underscore meet this. The tags are those that the class lists, decodes by, encodes by
and, if wanted, names constructors after, and if they differ, the class encodes each tag by the
type that it decodes it by. -/
theorem nodup_tagsOf_iff {u : Union}
    (identifiers : ∀ case ∈ u.cases, isIdentifier case = true) :
    ((tagsOf u).Nodup ↔ OrdinalsApart (baseLabels u.cases) ∧
      ∀ w ∈ reservedNames, w ∈ variantLabels u.cases → w ++ "_" ∉ variantLabels u.cases) ∧
    ((∀ l ∈ baseLabels u.cases, endsPlainly l = true) →
      (∀ w ∈ reservedNames, w ++ "_" ∉ baseLabels u.cases) → (tagsOf u).Nodup) ∧
    ∀ (n : Names) (fast : Bool),
      unionCode n fast u = codeText (unionLines n fast u) ∧
      "\tTAGS = " ++ quotedTuple (tagsOf u) ∈ unionLines n fast u ∧
      (decodeTable (unionLines n fast u)).map Prod.fst = tagsOf u ∧
      (encodeTable (unionLines n fast u)).map Prod.fst = tagsOf u ∧
      (unionLines n fast u).filterMap readMethod
        = ["decode", "encode"] ++ (if fast then tagsOf u else []) ∧
      ((tagsOf u).Nodup → ∀ v ∈ decodeTable (unionLines n fast u),
        (encodeTable (unionLines n fast u)).lookup v.1 = some v.2) := by
  refine ⟨nodup_tagsOf_iff_apart u, nodup_tagsOf_of_endsPlainly, ?_⟩
  intro n fast
  rw [decodeTable_unionLines n fast identifiers, encodeTable_unionLines n fast identifiers]
  refine ⟨rfl, ?_, map_fst_variantsOf n u, map_fst_variantsOf n u,
    filterMap_readMethod_unionLines n fast identifiers, ?_⟩
  · simp [unionLines]
  · intro hnodup v hv
    rw [← map_fst_variantsOf n u] at hnodup
    exact lookup_of_mem hnodup hv

/-- The second of two equal labels is called like the label of a third case. -/
example : ¬ (tagsOf { name := "U", cases := ["A", "a", "A2"] }).Nodup := by decide +kernel

/-- A reserved label is called like the label of another case. -/
example : ¬ (tagsOf { name := "U", cases := ["Tag", "Tag_"] }).Nodup := by decide +kernel

/-- A union of a text and a number. -/
def textOrNumber : Union := { name := "Value", cases := ["Text", "Int"] }

/-- The tags of a union of a text and a number differ. -/
theorem nodup_tagsOf_textOrNumber :
    (∀ case ∈ textOrNumber.cases, isIdentifier case = true) ∧
      tagsOf textOrNumber = ["text", "int"] ∧ (tagsOf textOrNumber).Nodup := by
  have identifiers : ∀ case ∈ textOrNumber.cases, isIdentifier case = true := by decide +kernel
  have hplain : ∀ l ∈ baseLabels textOrNumber.cases, endsPlainly l = true := by decide +kernel
  have hreserved : ∀ w ∈ reservedNames, w ++ "_" ∉ baseLabels textOrNumber.cases := by
    decide +kernel
  exact ⟨identifiers, by decide +kernel, (nodup_tagsOf_iff identifiers).2.1 hplain hreserved⟩

end ApiBindings.Bindings
