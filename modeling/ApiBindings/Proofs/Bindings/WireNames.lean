import ApiBindings.Proofs.Bindings.Display
import ApiBindings.Proofs.Naming.CamelCase
/-!
# Wire names in the generated code

A property is named after the camel case of a wire name, so what the generated code keeps of the
wire names stands and falls with camel case keeping them apart. Main statement: for complete fields
with different wire names, the properties differ, the key map of a record gives every property its
own wire name and the function of an operation repeats no parameter exactly if camel case keeps the
wire names apart, which it does for names in plain snake case (`keptApart_iff_survive`).
-/

namespace ApiBindings.Bindings

open Reference (Field)
open Naming (KeptApart camelCase escapeKeyword isIdentifier isSnakeName)

/-! ## Complete fields -/

/-- A complete field has a name whose camel case is an identifier. -/
theorem isIdentifier_of_isComplete {f : Field} (h : f.isComplete = true) :
    f.name = some (wireName f) ∧ isIdentifier (camelCase (wireName f)) = true := by
  unfold Field.isComplete at h
  cases hname : f.name with
  | none => simp [hname] at h
  | some name =>
    simp only [hname, Bool.and_eq_true] at h
    simp [wireName, hname, h.1.2]

/-- The property of a complete field is named after its wire name. -/
theorem propertyName_of_isComplete {f : Field} (h : f.isComplete = true) :
    propertyName f = escapeKeyword (camelCase (wireName f)) := by
  simp [propertyName, (isIdentifier_of_isComplete h).1]

/-- Two complete fields share a property exactly if their wire names share a camel case. -/
theorem propertyName_eq_iff {f g : Field} (hf : f.isComplete = true) (hg : g.isComplete = true) :
    propertyName f = propertyName g ↔ camelCase (wireName f) = camelCase (wireName g) := by
  rw [propertyName_of_isComplete hf, propertyName_of_isComplete hg]
  exact Naming.escapeKeyword_camelCase_eq_iff

/-! ## Characters of names -/

/-- No delimiter stands in the camel case of a complete field, nor in its wire name. -/
theorem delimiter_not_mem {f : Field} (h : f.isComplete = true) {c : Char}
    (hc : c ∈ delimiters) :
    c ∉ (camelCase (wireName f)).toList ∧ c ∉ (wireName f).toList := by
  have hcamel := delimiter_not_mem_of_isIdentifier (isIdentifier_of_isComplete h).2 hc
  refine ⟨hcamel, fun hmem => hcamel ?_⟩
  -- a delimiter in the wire name would stay in its camel case
  exact Naming.mem_camelCase_of_isCaseless hmem (delimiters_apart c hc).ne_underscore
    (delimiters_apart c hc).caseless

/-- No delimiter stands in the property name of a complete field. -/
theorem delimiter_not_mem_propertyName {f : Field} (h : f.isComplete = true) {c : Char}
    (hc : c ∈ delimiters) : c ∉ (propertyName f).toList := by
  rw [propertyName_of_isComplete h]
  exact Naming.not_mem_escapeKeyword (delimiters_apart c hc).ne_underscore
    (delimiter_not_mem h hc).1

/-- Wire name and property name of a complete field are plain. -/
theorem all_isPlain_of_isComplete {f : Field} (h : f.isComplete = true) :
    (propertyName f).toList.all isPlain = true ∧ (wireName f).toList.all isPlain = true := by
  constructor
  · apply all_isPlain
    intro c hc
    exact delimiter_not_mem_propertyName h hc
  · apply all_isPlain
    intro c hc
    exact (delimiter_not_mem h hc).2

/-! ## The key map -/

/-- The entries of the key map. -/
def keyEntries (fields : List Field) : List (String × String) :=
  fields.map fun f => (propertyName f, wireName f)

/-- The keys of the key map are the property names. -/
theorem map_fst_keyEntries (fields : List Field) :
    (keyEntries fields).map Prod.fst = fields.map propertyName := by
  simp only [keyEntries, List.map_map, Function.comp_def]

/-- The key map that a record's class holds is read as its entries. -/
theorem readDisplay_recordCode (n : Names) (bases : List (String × String)) {r : Record}
    (complete : ∀ f ∈ r.fields, f.isComplete = true) (hne : r.fields ≠ []) :
    ∃ display rest,
      recordCode n bases r
        = codeText (recordHead bases r) ++ "\tmodel_config = wire_config(" ++ display ∧
      readDisplay display.toList = some (keyEntries r.fields, rest) := by
  have hplain : ∀ e ∈ keyEntries r.fields,
      e.1.toList.all isPlain = true ∧ e.2.toList.all isPlain = true := by
    intro e he
    obtain ⟨f, hf, rfl⟩ := List.mem_map.mp he
    dsimp only
    exact all_isPlain_of_isComplete (complete f hf)
  have hlines : (r.fields.map keyLine).flatMap (fun l => l.toList ++ ['\n'])
      = (keyEntries r.fields).flatMap fun e => (entryLine e).toList ++ ['\n'] := by
    rw [keyEntries, List.flatMap_map, List.flatMap_map]
    rfl
  -- behind the closing brace the class goes on with its properties
  let rest : List Char := [')', '\n'] ++
    (r.fields.flatMap (propertyLines n)).flatMap fun l => l.toList ++ ['\n']
  refine ⟨String.ofList ('{' :: '\n' ::
    ((r.fields.map keyLine).flatMap (fun l => l.toList ++ ['\n']) ++ '\t' :: '}' :: rest)),
    rest, ?_, ?_⟩
  · have hfields : r.fields.isEmpty = false := by simpa using hne
    rw [← String.toList_inj, recordCode, toList_codeText (by simp [recordHead])]
    simp only [hfields, Bool.false_eq_true, ↓reduceIte, String.toList_append, String.toList_ofList,
      toList_codeText (show recordHead bases r ≠ [] by simp [recordHead]), List.flatMap_append,
      List.flatMap_cons, List.flatMap_nil]
    simp [rest]
  · rw [String.toList_ofList, readDisplay, readEntries_layout (by decide), hlines,
      readEntries_lines hplain]

/-! ## The parameters -/

/-- The name that the line of a parameter declares. -/
def declaredName (line : String) : String :=
  String.ofList ((line.toList.dropWhile isLayout).takeWhile (· != ':'))

/-- The names that a signature declares between the mark for named parameters and the end. -/
def declaredNames (signature : List String) : List String :=
  ((signature.drop 2).dropLast).map declaredName

/-- The line of a parameter declares the property name of its field. -/
theorem declaredName_parameterLine (n : Names) {f : Field} (h : f.isComplete = true) :
    declaredName (parameterLine n f) = propertyName f := by
  have hlayout : ∀ c ∈ (propertyName f).toList, isLayout c = false := by
    intro c hc
    by_contra hl
    exact delimiter_not_mem_propertyName h (mem_delimiters_of_isLayout (by simpa using hl)) hc
  have hcolon : ∀ c ∈ (propertyName f).toList, (c != ':') = true := by
    intro c hc
    have hmark : ':' ∈ delimiters := by decide
    have hne : c ≠ ':' := fun he => delimiter_not_mem_propertyName h hmark (he ▸ hc)
    simpa using hne
  have hline : (parameterLine n f).toList = '\t' :: ((propertyName f).toList ++
      ':' :: (' ' :: (n.fieldType f).toList ++ (defaultText f).toList ++ [','])) := by
    simp [parameterLine]
  have hskip : ∀ rest, ((propertyName f).toList ++ ':' :: rest).dropWhile isLayout
      = (propertyName f).toList ++ ':' :: rest := by
    intro rest
    cases hname : (propertyName f).toList with
    | nil => rfl
    | cons c cs =>
      rw [hname, List.forall_mem_cons] at hlayout
      rw [List.cons_append, List.dropWhile_cons_of_neg (by simp [hlayout.1])]
  unfold declaredName
  rw [hline, List.dropWhile_cons_of_pos (by decide), hskip,
    Text.takeWhile_stop hcolon (by decide), String.ofList_toList]

/-- A signature declares the property names of the fields, in their order. -/
theorem declaredNames_signature (n : Names) {o : Operation}
    (complete : ∀ f ∈ o.fields, f.isComplete = true) :
    declaredNames (signature n o) = o.fields.map propertyName := by
  unfold signature declaredNames
  by_cases hempty : o.fields = []
  · simp [hempty]
  · have hfields : o.fields.isEmpty = false := by simpa using hempty
    simp only [hfields, Bool.false_eq_true, ↓reduceIte, List.cons_append, List.nil_append,
      List.drop_succ_cons, List.drop_zero, List.dropLast_concat, List.map_map]
    apply List.map_congr_left
    intro f hf
    exact declaredName_parameterLine n (complete f hf)

/-! ## What survives -/

/-- Properties differ exactly if camel case keeps the wire names apart. -/
theorem nodup_propertyName_iff {fields : List Field}
    (complete : ∀ f ∈ fields, f.isComplete = true) (distinct : (fields.map wireName).Nodup) :
    (fields.map propertyName).Nodup ↔ KeptApart (fields.map wireName) := by
  have hmap : fields.map propertyName
      = (fields.map wireName).map fun name => escapeKeyword (camelCase name) := by
    rw [List.map_map]
    apply List.map_congr_left
    intro f hf
    rw [Function.comp_apply]
    exact propertyName_of_isComplete (complete f hf)
  rw [hmap, List.nodup_map_iff_inj_on distinct]
  simp only [Naming.escapeKeyword_camelCase_eq_iff]
  rfl

/-- The key map gives every property its own wire name exactly if camel case keeps the wire names
apart. -/
theorem valueOf_keyEntries_iff {fields : List Field}
    (complete : ∀ f ∈ fields, f.isComplete = true) (distinct : (fields.map wireName).Nodup) :
    (∀ f ∈ fields, valueOf (keyEntries fields) (propertyName f) = some (wireName f)) ↔
      KeptApart (fields.map wireName) := by
  constructor
  · intro hvalue a ha b hb hab
    obtain ⟨f, hf, rfl⟩ := List.mem_map.mp ha
    obtain ⟨g, hg, rfl⟩ := List.mem_map.mp hb
    -- two fields with one property ask the key map for the same key
    have hproperty := (propertyName_eq_iff (complete f hf) (complete g hg)).mpr hab
    have hfg : some (wireName f) = some (wireName g) := by
      rw [← hvalue f hf, ← hvalue g hg, hproperty]
    exact Option.some.inj hfg
  · intro hkept f hf
    have hkeys : ((keyEntries fields).map Prod.fst).Nodup := by
      rw [map_fst_keyEntries]
      exact (nodup_propertyName_iff complete distinct).mpr hkept
    have hentry : (propertyName f, wireName f) ∈ keyEntries fields :=
      List.mem_map_of_mem (f := fun f => (propertyName f, wireName f)) hf
    have hvalue := valueOf_of_mem hkeys hentry
    dsimp only at hvalue
    exact hvalue

/-- **What the generated code keeps of wire names.** Let complete fields have different wire names.
Then each of these holds exactly if camel case keeps the wire names apart: the properties differ;
the key map in the class of a record with these fields, read from its text, gives every property
its own wire name; the signature of an operation with these parameters declares none twice. Names
in plain snake case are kept apart. -/
theorem keptApart_iff_survive {fields : List Field}
    (complete : ∀ f ∈ fields, f.isComplete = true) (distinct : (fields.map wireName).Nodup) :
    ((fields.map propertyName).Nodup ↔ KeptApart (fields.map wireName)) ∧
    (∀ (n : Names) (bases : List (String × String)) (r : Record), r.fields = fields → fields ≠ [] →
      ∃ display entries rest,
        recordCode n bases r
          = codeText (recordHead bases r) ++ "\tmodel_config = wire_config(" ++ display ∧
        readDisplay display.toList = some (entries, rest) ∧
        ((∀ f ∈ fields, valueOf entries (propertyName f) = some (wireName f)) ↔
          KeptApart (fields.map wireName))) ∧
    (∀ (n : Names) (o : Operation), o.fields = fields →
      operationCode n o = codeText (["@staticmethod"] ++ signature n o ++ functionBody o) ∧
      declaredNames (signature n o) = fields.map propertyName ∧
      ((declaredNames (signature n o)).Nodup ↔ KeptApart (fields.map wireName))) ∧
    ((∀ f ∈ fields, isSnakeName (wireName f) = true) → KeptApart (fields.map wireName)) := by
  refine ⟨nodup_propertyName_iff complete distinct, ?_, ?_, ?_⟩
  · rintro n bases r rfl hne
    obtain ⟨display, rest, hcode, hread⟩ := readDisplay_recordCode n bases complete hne
    exact ⟨display, keyEntries r.fields, rest, hcode, hread,
      valueOf_keyEntries_iff complete distinct⟩
  · rintro n o rfl
    have hdeclared := declaredNames_signature n complete
    refine ⟨rfl, hdeclared, ?_⟩
    rw [hdeclared]
    exact nodup_propertyName_iff complete distinct
  · intro hsnake
    apply Naming.keptApart_of_isSnakeName
    intro name hname
    obtain ⟨f, hf, rfl⟩ := List.mem_map.mp hname
    exact hsnake f hf

/-- The fields of a message in a thread. -/
def threadFields : List Field :=
  [{ name := some "chat_id", type := some (.scalar "Int") },
    { name := some "thread_id", type := some (.scalar "Int") }]

/-- The properties of a message in a thread differ, for its wire names are in plain snake case. -/
theorem nodup_propertyName_threadFields :
    (∀ f ∈ threadFields, f.isComplete = true) ∧ (threadFields.map wireName).Nodup ∧
      (threadFields.map propertyName).Nodup := by
  have hcomplete : ∀ f ∈ threadFields, f.isComplete = true := by decide +kernel
  have hdistinct : (threadFields.map wireName).Nodup := by decide
  have hsnake : ∀ f ∈ threadFields, isSnakeName (wireName f) = true := by decide +kernel
  have hiff := keptApart_iff_survive hcomplete hdistinct
  exact ⟨hcomplete, hdistinct, hiff.1.mpr (hiff.2.2.2 hsnake)⟩

end ApiBindings.Bindings
