import ApiBindings.Proofs.Bindings.Tags
import ApiBindings.Proofs.Naming.Label
/-!
# Constructors of a union

The constructor of a case is called like the tag of the case and has a parameter of that name behind
the class. A tag is never a keyword and never a name that the class has taken, but what all cases
share may be cut off in front of a digit, and the label may be the name of the class parameter. Main
statement: these are the only two ways in which a tag cannot name its constructor
(`usable_tagsOf_iff`).
-/

namespace ApiBindings.Bindings

open Text
open Naming (variantLabels baseLabels ordinal isIdentifier isKeyword Cut endsPlainly)

/-! ## Tags as names -/

/-- The name of the parameter that holds the class in a constructor. -/
def classParameter : String := "cls"

/-- A name for a constructor: it may be defined, is not taken by the class, and is not the name of
the constructor's own first parameter. -/
structure IsUsable (label : String) : Prop where
  identifier : isIdentifier label = true
  notKeyword : isKeyword label = false
  notReserved : label ∉ reservedNames
  notClass : label ≠ classParameter

instance (label : String) : Decidable (IsUsable label) :=
  decidable_of_iff (isIdentifier label = true ∧ isKeyword label = false ∧ label ∉ reservedNames ∧
      label ≠ classParameter)
    ⟨fun h => ⟨h.1, h.2.1, h.2.2.1, h.2.2.2⟩,
      fun h => ⟨h.identifier, h.notKeyword, h.notReserved, h.notClass⟩⟩

/-- The cuts that lead to the labels of a union. -/
def cutOf (u : Union) : Cut := Cut.ofCases (u.cases.map String.toList)

/-- Escaping a reserved name makes no identifier and takes none away. -/
theorem isIdentifier_escapeReserved (label : String) :
    isIdentifier (escapeReserved label) = isIdentifier label := by
  have hreserved : ∀ w ∈ reservedNames, isIdentifier (w ++ "_") = true ∧ isIdentifier w = true := by
    decide +kernel
  unfold escapeReserved
  split
  · rename_i h
    have hword := hreserved label (by simpa using h)
    rw [hword.1, hword.2]
  · rfl

/-- An escaped label is not reserved. -/
theorem escapeReserved_not_mem (label : String) : escapeReserved label ∉ reservedNames := by
  have hend : ∀ w ∈ reservedNames, w.toList.getLast? ≠ some '_' := by decide
  unfold escapeReserved
  split
  · intro h
    exact absurd (by simp) (hend _ h)
  · rename_i h
    simpa using h

/-- An escaped label is a name without an underscore at its end only if it is that label. -/
theorem eq_of_escapeReserved_eq {label name : String} (hname : name.toList.getLast? ≠ some '_')
    (h : escapeReserved label = name) : label = name := by
  unfold escapeReserved at h
  split at h
  · rw [← h] at hname
    exact absurd (by simp) hname
  · exact h

/-- The labels before numbering are those that the cuts lead to. -/
theorem baseLabels_eq_map (u : Union) :
    baseLabels u.cases = u.cases.map fun name => (cutOf u).label name.toList :=
  Naming.baseLabels_eq_map u.cases

/-- A tag is what an occurrence of a label is called, with an underscore if that is reserved. -/
theorem exists_of_mem_tagsOf {u : Union} {tag : String} (h : tag ∈ tagsOf u) :
    ∃ name ∈ u.cases, ∃ n, tag = escapeReserved (ordinal ((cutOf u).label name.toList) n) := by
  obtain ⟨l, hl, rfl⟩ := List.mem_map.1 h
  obtain ⟨b, hb, n, -, -, rfl⟩ := exists_of_mem_variantLabels hl
  rw [baseLabels_eq_map] at hb
  obtain ⟨name, hname, rfl⟩ := List.mem_map.1 hb
  exact ⟨name, hname, n, rfl⟩

/-- The first occurrence of a label has no number, so its tag is the escaped label. -/
theorem escapeReserved_label_mem_tagsOf {u : Union} {name : String} (h : name ∈ u.cases) :
    escapeReserved ((cutOf u).label name.toList) ∈ tagsOf u := by
  have hbase : (cutOf u).label name.toList ∈ baseLabels u.cases := by
    rw [baseLabels_eq_map]
    exact List.mem_map.2 ⟨name, h, rfl⟩
  exact List.mem_map_of_mem (Naming.mem_variantLabels_of_mem_baseLabels hbase)

/-- No tag is a keyword. -/
theorem isKeyword_of_mem_tagsOf {u : Union} {tag : String} (h : tag ∈ tagsOf u) :
    isKeyword tag = false := by
  obtain ⟨name, -, n, rfl⟩ := exists_of_mem_tagsOf h
  unfold escapeReserved
  split
  · exact Naming.isKeyword_append_underscore _
  · exact Naming.isKeyword_ordinal (Naming.isKeyword_escapeKeyword _) n

/-- No tag is reserved. -/
theorem not_mem_reservedNames_of_mem_tagsOf {u : Union} {tag : String} (h : tag ∈ tagsOf u) :
    tag ∉ reservedNames := by
  obtain ⟨l, -, rfl⟩ := List.mem_map.1 h
  exact escapeReserved_not_mem l

/-- The tags are usable exactly if no stem begins with a digit and no label is the name of the class
parameter. -/
theorem forall_isUsable_iff {u : Union}
    (identifiers : ∀ case ∈ u.cases, isIdentifier case = true) :
    (∀ tag ∈ tagsOf u, IsUsable tag) ↔
      ∀ case ∈ u.cases, (cutOf u).opensAtDigit case.toList = false ∧
        (cutOf u).label case.toList ≠ classParameter := by
  have hlabel : ∀ case ∈ u.cases, isIdentifier ((cutOf u).label case.toList) = true ↔
      (cutOf u).opensAtDigit case.toList = false := fun case hcase =>
    Naming.isIdentifier_label_iff (identifiers case hcase)
      (Naming.isBoundary_front (List.mem_map_of_mem hcase))
  constructor
  · intro h case hcase
    have htag := h _ (escapeReserved_label_mem_tagsOf hcase)
    refine ⟨(hlabel case hcase).1 ?_, ?_⟩
    · rw [← isIdentifier_escapeReserved]
      exact htag.identifier
    · intro hclass
      rw [hclass] at htag
      exact htag.notClass (by decide)
  · intro h tag htag
    obtain ⟨case, hcase, n, rfl⟩ := exists_of_mem_tagsOf htag
    refine ⟨?_, isKeyword_of_mem_tagsOf htag, not_mem_reservedNames_of_mem_tagsOf htag, ?_⟩
    · rw [isIdentifier_escapeReserved, Naming.isIdentifier_ordinal]
      exact (hlabel case hcase).2 (h case hcase).1
    · -- neither an underscore nor a number leads to the name of the parameter
      intro hclass
      have hordinal := eq_of_escapeReserved_eq (by decide) hclass
      exact (h case hcase).2 (Naming.eq_of_ordinal_eq (by decide) hordinal)

/-- A tag holds nothing but letters of identifiers. -/
theorem forall_continue_of_mem_tagsOf {u : Union}
    (identifiers : ∀ case ∈ u.cases, isIdentifier case = true) {tag : String}
    (h : tag ∈ tagsOf u) : ∀ c ∈ tag.toList, isIdentifierContinue c = true := by
  obtain ⟨case, hcase, n, rfl⟩ := exists_of_mem_tagsOf h
  have hordinal := Naming.forall_continue_ordinal (Naming.forall_continue_label
    (identifiers case hcase) (Naming.isBoundary_front (List.mem_map_of_mem hcase))) n
  unfold escapeReserved
  split
  · rw [String.toList_append, List.forall_mem_append]
    exact ⟨hordinal, Naming.isIdentifierContinue_of_mem_underscore⟩
  · exact hordinal

/-! ## Heads of methods -/

/-- The head of a method: its name and its parameters, up to the first one with a type. -/
structure MethodHead where
  name : String
  parameters : List String
  deriving DecidableEq, Repr

/-- The name may be defined. -/
def mayBeDefined (name : String) : Bool := isIdentifier name && !isKeyword name

/-- The head may be written: all its names may be defined, and no parameter stands there twice.
Names count as equal if they are spelled alike. -/
structure MethodHead.IsWellFormed (head : MethodHead) : Prop where
  name : mayBeDefined head.name = true
  parameters : ∀ p ∈ head.parameters, mayBeDefined p = true
  nodup : head.parameters.Nodup

/-- The head that a text behind the word `def` opens with. -/
def headOf (s : List Char) : MethodHead :=
  let list := ((s.dropWhile (· != '(')).drop 1).takeWhile fun c => c != ':' && c != ')'
  { name := String.ofList (s.takeWhile (· != '('))
    parameters := (pieces (· == ',') list).map fun p => String.ofList (p.dropWhile (· == ' ')) }

/-- The head of the method that a line defines. -/
def readHead (line : String) : Option MethodHead :=
  (dropStart? "\tdef ".toList line.toList).map headOf

/-- The decoder of a union. -/
def decodeHead : MethodHead := ⟨"decode", [classParameter, "data"]⟩

/-- The encoder of a union. -/
def encodeHead : MethodHead := ⟨"encode", ["self"]⟩

/-- The constructor for a tag. -/
def constructorHead (tag : String) : MethodHead := ⟨tag, [classParameter, tag]⟩

/-- A line that defines no method has no head. -/
theorem readHead_eq_none_of_readMethod {line : String} (h : readMethod line = none) :
    readHead line = none := by
  unfold readMethod at h
  unfold readHead
  rw [Option.map_eq_none_iff] at h ⊢
  exact h

/-- The marks in the head of a method. -/
def headMarks : List Char := ['(', ',', ' ', ':', ')']

/-- No mark of a head stands in the name. -/
def HasNoHeadMark (name : String) : Prop := ∀ c ∈ headMarks, c ∉ name.toList

/-- No mark of a head is a letter of identifiers. -/
theorem hasNoHeadMark_of_forall_continue {name : String}
    (h : ∀ c ∈ name.toList, isIdentifierContinue c = true) : HasNoHeadMark name := by
  have hmarks : (headMarks.all fun c => !isIdentifierContinue c) = true := by decide +kernel
  exact Naming.not_mem_of_forall_continue hmarks h

/-- No mark stands in the fixed names in the heads of a class. -/
theorem hasNoHeadMark_fixed {name : String} (h : name ∈ [classParameter, "decode", "data"]) :
    HasNoHeadMark name := by
  have hidentifiers : ∀ name ∈ [classParameter, "decode", "data"], isIdentifier name = true := by
    decide +kernel
  apply hasNoHeadMark_of_forall_continue
  exact Naming.forall_continue_of_isIdentifier (hidentifiers name h)

/-- The characters of a name without marks differ from each mark. -/
theorem HasNoHeadMark.ne {name : String} (h : HasNoHeadMark name) {mark : Char}
    (hmark : mark ∈ headMarks) : ∀ c ∈ name.toList, c ≠ mark := by
  intro c hc heq
  exact h mark hmark (heq ▸ hc)

/-- Two parameters are told apart. -/
theorem HasNoHeadMark.pieces_pair {first last : String} (hfirst : HasNoHeadMark first)
    (hlast : HasNoHeadMark last) :
    pieces (· == ',') (first.toList ++ ',' :: ' ' :: last.toList)
      = [first.toList, ' ' :: last.toList] := by
  have hleft : ∀ c ∈ first.toList, (c == ',') = false := fun c hc => by
    simpa using hfirst.ne (by decide) c hc
  have hright : ∀ c ∈ ' ' :: last.toList, (c == ',') = false := by
    rw [List.forall_mem_cons]
    exact ⟨by decide, fun c hc => by simpa using hlast.ne (by decide) c hc⟩
  rw [pieces_append_cons (by decide), pieces_eq_singleton hleft, pieces_eq_singleton hright]
  rfl

/-- A name begins with no space. -/
theorem HasNoHeadMark.dropWhile_space {name : String} (h : HasNoHeadMark name) :
    name.toList.dropWhile (· == ' ') = name.toList := by
  cases hlist : name.toList with
  | nil => rfl
  | cons c cs =>
    have hc : c ≠ ' ' := h.ne (by decide) c (hlist ▸ List.mem_cons_self)
    rw [List.dropWhile_cons_of_neg (by simpa using hc)]

/-- A name, a parameter and a parameter with a type are read back. -/
theorem headOf_eq {name first last : String} (hname : HasNoHeadMark name)
    (hfirst : HasNoHeadMark first) (hlast : HasNoHeadMark last) (rest : List Char) :
    headOf (name.toList ++ '(' :: ((first.toList ++ ',' :: ' ' :: last.toList) ++ ':' :: rest))
      = ⟨name, [first, last]⟩ := by
  have hopen : ∀ c ∈ name.toList, (c != '(') = true := fun c hc => by
    simpa using hname.ne (by decide) c hc
  have hinner : ∀ {s : String}, HasNoHeadMark s → ∀ c ∈ s.toList, (c != ':' && c != ')') = true :=
    fun hs c hc => by simpa using ⟨hs.ne (by decide) c hc, hs.ne (by decide) c hc⟩
  have hlist : ∀ c ∈ first.toList ++ ',' :: ' ' :: last.toList,
      (c != ':' && c != ')') = true := by
    rw [List.forall_mem_append, List.forall_mem_cons, List.forall_mem_cons]
    exact ⟨hinner hfirst, by decide, by decide, hinner hlast⟩
  unfold headOf
  rw [Text.takeWhile_stop hopen (by decide), Text.dropWhile_stop hopen (by decide), List.drop_one,
    List.tail_cons, Text.takeWhile_stop hlist (by decide)]
  simp only [hfirst.pieces_pair hlast, List.map_cons, List.map_nil,
    hfirst.dropWhile_space]
  rw [List.dropWhile_cons_of_pos (by decide), hlast.dropWhile_space]
  simp only [String.ofList_toList]

/-- The lines of a constructor define one method, which takes the class and its value. -/
theorem filterMap_readHead_constructorLines (name : String) {v : String × String}
    (h : ∀ c ∈ v.1.toList, isIdentifierContinue c = true) :
    (constructorLines name v).filterMap readHead = [constructorHead v.1] := by
  have htag := hasNoHeadMark_of_forall_continue h
  have hclass := hasNoHeadMark_fixed (List.mem_cons_self)
  have hdef : readHead
      ("\tdef " ++ v.1 ++ "(cls, " ++ v.1 ++ ": " ++ v.2 ++ ") -> " ++ name ++ ":")
        = some (constructorHead v.1) := by
    have hline :
        ("\tdef " ++ v.1 ++ "(cls, " ++ v.1 ++ ": " ++ v.2 ++ ") -> " ++ name ++ ":").toList
        = "\tdef ".toList ++ (v.1.toList ++ '(' ::
          ((classParameter.toList ++ ',' :: ' ' :: v.1.toList) ++ ':' ::
            (" ".toList ++ v.2.toList ++ ") -> ".toList ++ name.toList ++ ":".toList))) := by
      simp [classParameter]
    unfold readHead
    rw [hline, dropStart?_eq_some_iff.2 rfl, Option.map_some, headOf_eq htag hclass htag]
    rfl
  have hreturn : readHead ("\t\treturn cls(\"" ++ v.1 ++ "\", " ++ v.1 ++ ")") = none := by
    simp [readHead, dropStart?]
  have hempty : readHead "" = none := by decide
  have hdecorator : readHead "\t@classmethod" = none := by decide
  simp [constructorLines, hdef, hreturn, hempty, hdecorator]

/-- The class of a union with constructors defines its decoder, its encoder and one constructor for
each tag. -/
theorem filterMap_readHead_unionLines (n : Names) {u : Union}
    (identifiers : ∀ case ∈ u.cases, isIdentifier case = true) :
    (unionLines n true u).filterMap readHead
      = decodeHead :: encodeHead :: (tagsOf u).map constructorHead := by
  have hrows : ((variantsOf n u).map decodeRow).filterMap readHead = [] := by
    simp [readHead_eq_none_of_readMethod (decodeRow_only _).2.2]
  have hbranches : ((variantsOf n u).flatMap encodeBranch).filterMap readHead = [] := by
    have hbranch : ∀ v ∈ variantsOf n u, (encodeBranch v).filterMap readHead = [] := fun v _ => by
      simp [readHead, dropStart?, encodeBranch]
    rw [filterMap_flatMap_eq hbranch]
    simp
  have hconstructors : ((variantsOf n u).flatMap (constructorLines u.name)).filterMap readHead
      = (tagsOf u).map constructorHead := by
    have htag : ∀ v ∈ variantsOf n u, v.1 ∈ tagsOf u := fun v hv => by
      rw [← map_fst_variantsOf n u]
      exact List.mem_map_of_mem hv
    rw [filterMap_flatMap_eq fun v hv => filterMap_readHead_constructorLines u.name
      (forall_continue_of_mem_tagsOf identifiers (htag v hv)), ← map_fst_variantsOf n u,
      List.map_map]
    exact List.flatMap_pure_eq_map _ _
  have hdecode : readHead ("\tdef decode(cls, data: Any) -> " ++ u.name ++ ":")
      = some decodeHead := by
    have hline : ("\tdef decode(cls, data: Any) -> " ++ u.name ++ ":").toList
        = "\tdef ".toList ++ ("decode".toList ++ '(' ::
          ((classParameter.toList ++ ',' :: ' ' :: "data".toList) ++ ':' ::
            (" Any) -> ".toList ++ u.name.toList ++ ":".toList))) := by
      simp [classParameter]
    unfold readHead
    rw [hline, dropStart?_eq_some_iff.2 rfl, Option.map_some,
      headOf_eq (hasNoHeadMark_fixed (by simp)) (hasNoHeadMark_fixed (by simp))
        (hasNoHeadMark_fixed (by simp))]
    rfl
  have hencode : readHead "\tdef encode(self) -> Any:" = some encodeHead := by decide
  unfold unionLines
  simp only [List.filterMap_append, List.filterMap_cons, hrows, hbranches, hdecode, hencode,
    ↓reduceIte, hconstructors]
  simp [readHead, dropStart?, tripleQuoted]

/-- A tag is usable exactly if its constructor may be written. -/
theorem isUsable_iff_isWellFormed {u : Union} {tag : String} (h : tag ∈ tagsOf u) :
    IsUsable tag ↔ (constructorHead tag).IsWellFormed := by
  have hkeyword := isKeyword_of_mem_tagsOf h
  have hclass : mayBeDefined classParameter = true := by decide +kernel
  constructor
  · intro husable
    have htag : mayBeDefined tag = true := by
      simp [mayBeDefined, husable.identifier, hkeyword]
    refine ⟨htag, ?_, ?_⟩
    · simp [constructorHead, hclass, htag]
    · simpa [constructorHead] using husable.notClass.symm
  · intro hhead
    have hname : isIdentifier tag = true ∧ isKeyword tag = false := by
      simpa [mayBeDefined, constructorHead] using hhead.name
    have hne : classParameter ≠ tag := by
      simpa [constructorHead] using hhead.nodup
    exact ⟨hname.1, hname.2, not_mem_reservedNames_of_mem_tagsOf h, hne.symm⟩

/-! ## When tags are usable -/

/-- **When the tags of a union name its constructors.** Let the cases of a union be identifiers. No
tag is a keyword or a name that the class has taken, and the tags are usable exactly if no stem that
the cuts leave begins with a digit and no label is the name of the class parameter. The class has
one constructor for each tag, and its head may be written exactly if the tag is usable. -/
theorem usable_tagsOf_iff {u : Union}
    (identifiers : ∀ case ∈ u.cases, isIdentifier case = true) :
    ((∀ tag ∈ tagsOf u, IsUsable tag) ↔
      ∀ case ∈ u.cases, (cutOf u).opensAtDigit case.toList = false ∧
        (cutOf u).label case.toList ≠ classParameter) ∧
    (∀ tag ∈ tagsOf u, isKeyword tag = false ∧ tag ∉ reservedNames ∧
      (IsUsable tag ↔ (constructorHead tag).IsWellFormed)) ∧
    ∀ n : Names, (unionLines n true u).filterMap readHead
      = decodeHead :: encodeHead :: (tagsOf u).map constructorHead := by
  refine ⟨forall_isUsable_iff identifiers, ?_, fun n => filterMap_readHead_unionLines n identifiers⟩
  intro tag htag
  exact ⟨isKeyword_of_mem_tagsOf htag, not_mem_reservedNames_of_mem_tagsOf htag,
    isUsable_iff_isWellFormed htag⟩

/-- What the cases share is cut off in front of their digits. -/
example : tagsOf { name := "U", cases := ["Media1", "Media2"] } = ["1", "2"] ∧ ¬ IsUsable "1" := by
  decide +kernel

/-- The label of a case is the name of the class parameter. -/
example : tagsOf { name := "U", cases := ["Cls", "Photo"] } = ["cls", "photo"] ∧
    ¬ IsUsable "cls" := by
  decide +kernel

/-- A union of two kinds of media and a kind whose label is reserved. -/
def mediaKinds : Union :=
  { name := "Media", cases := ["MediaPhoto", "MediaVideo2", "MediaValue", "MediaFrom"] }

/-- The tags of the kinds of media are usable. -/
theorem usable_tagsOf_mediaKinds :
    (∀ case ∈ mediaKinds.cases, isIdentifier case = true) ∧
      tagsOf mediaKinds = ["photo", "video2", "value_", "from_"] ∧
      ∀ tag ∈ tagsOf mediaKinds, IsUsable tag := by
  have identifiers : ∀ case ∈ mediaKinds.cases, isIdentifier case = true := by decide +kernel
  have hcuts : ∀ case ∈ mediaKinds.cases, (cutOf mediaKinds).opensAtDigit case.toList = false ∧
      (cutOf mediaKinds).label case.toList ≠ classParameter := by decide +kernel
  exact ⟨identifiers, by decide +kernel, (usable_tagsOf_iff identifiers).1.2 hcuts⟩

end ApiBindings.Bindings
