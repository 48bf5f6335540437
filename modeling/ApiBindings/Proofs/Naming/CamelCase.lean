import ApiBindings.Naming.CamelCase
import ApiBindings.Naming.Identifier
import ApiBindings.Proofs.Text.Casing
/-!
# What camel case keeps of a name

Camel case forgets underscores and most capitals, so it may send two names to one property. What it
keeps: every character without case, the absence of underscores, and, of a name in plain snake
case, everything (`uncamel_camelJoin_segments`). The underscore behind a keyword never makes two
properties the same.
-/

namespace ApiBindings.Naming

open Text

/-! ## Segments -/

/-- A character other than an underscore lies in a segment. -/
theorem exists_mem_segments {name : List Char} {c : Char} (hc : c ∈ name) (hu : c ≠ '_') :
    ∃ w ∈ segments name, c ∈ w := by
  obtain ⟨w, hw, hcw⟩ := exists_mem_pieces (p := (· == '_')) hc (by simpa using hu)
  refine ⟨w, List.mem_filter.mpr ⟨hw, ?_⟩, hcw⟩
  cases w with
  | nil => exact absurd hcw (by simp)
  | cons d w => rfl

/-- No segment has an underscore. -/
theorem underscore_not_mem_of_mem_segments {name w : List Char} (hw : w ∈ segments name) :
    '_' ∉ w := by
  intro hu
  have hpiece := (List.mem_filter.mp hw).1
  have := not_separator_of_mem_pieces (· == '_') name w hpiece '_' hu
  simp at this

/-! ## Characters that stay -/

/-- A character without case stays when segments are joined. -/
theorem mem_camelJoin_of_isCaseless {ws : List (List Char)} {w : List Char} {c : Char}
    (hw : w ∈ ws) (hc : c ∈ w) (h : isCaseless c = true) : c ∈ camelJoin ws := by
  cases ws with
  | nil => exact absurd hw (by simp)
  | cons first rest =>
    rw [camelJoin, List.mem_append]
    rcases List.mem_cons.mp hw with rfl | hw
    · left
      exact mem_lowerAfter_of_isCaseless h hc
    · right
      exact List.mem_flatMap.mpr ⟨w, hw, mem_capitalize_of_isCaseless h hc⟩

/-- A character without case, other than the underscore, stays in camel case. -/
theorem mem_camelCase_of_isCaseless {name : String} {c : Char} (hc : c ∈ name.toList)
    (hu : c ≠ '_') (h : isCaseless c = true) : c ∈ (camelCase name).toList := by
  obtain ⟨w, hw, hcw⟩ := exists_mem_segments hc hu
  rw [camelCase, String.toList_ofList]
  exact mem_camelJoin_of_isCaseless hw hcw h

/-- Camel case leaves no underscore. -/
theorem underscore_not_mem_camelCase (name : String) : '_' ∉ (camelCase name).toList := by
  have hsegments := fun w (hw : w ∈ segments name.toList) => underscore_not_mem_of_mem_segments hw
  rw [camelCase, String.toList_ofList]
  cases hws : segments name.toList with
  | nil => simp [camelJoin]
  | cons first rest =>
    rw [hws] at hsegments
    rw [camelJoin, List.mem_append, not_or]
    constructor
    · exact not_mem_lowerAfter isUnmade_underscore (hsegments first (by simp))
    · intro hu
      obtain ⟨w, hw, huw⟩ := List.mem_flatMap.mp hu
      exact not_mem_capitalize isUnmade_underscore (hsegments w (by simp [hw])) huw

/-! ## Keywords -/

/-- Of names without underscores, different ones stay different when keywords are escaped. -/
theorem escapeKeyword_injective {a b : String} (ha : '_' ∉ a.toList) (hb : '_' ∉ b.toList)
    (h : escapeKeyword a = escapeKeyword b) : a = b := by
  have hend : ∀ s t : String, '_' ∉ s.toList → s ≠ t ++ "_" := by
    rintro s t hs rfl
    exact hs (by simp)
  -- one of them escaped and the other not would put an underscore into the other
  rcases escapeKeyword_eq_or a with ea | ea <;> rcases escapeKeyword_eq_or b with eb | eb
  · rwa [ea, eb] at h
  · rw [ea, eb] at h
    exact absurd h (hend a b ha)
  · rw [ea, eb] at h
    exact absurd h.symm (hend b a hb)
  · rw [ea, eb] at h
    exact (String.append_left_inj _).mp h

/-- Escaped camel case tells two names apart exactly if camel case does. -/
theorem escapeKeyword_camelCase_eq_iff {a b : String} :
    escapeKeyword (camelCase a) = escapeKeyword (camelCase b) ↔ camelCase a = camelCase b := by
  constructor
  · exact escapeKeyword_injective (underscore_not_mem_camelCase a) (underscore_not_mem_camelCase b)
  · intro h
    rw [h]

/-! ## Plain snake case -/

/-- A word of small ASCII letters and digits. -/
def isSnakeWord (w : List Char) : Bool :=
  !w.isEmpty && w.all fun c => isAsciiLower c || isAsciiDigit c

/-- Words joined by single underscores, each behind the first beginning with a letter. -/
def isSnakeName (name : String) : Bool :=
  match pieces (· == '_') name.toList with
  | [] => false
  | first :: rest =>
    isSnakeWord first && rest.all fun w => isSnakeWord w && (w.head?.any isAsciiLower)

/-- Each capital ASCII letter in lower case behind an underscore. -/
def uncamel (s : List Char) : List Char :=
  s.flatMap fun c => if isAsciiUpper c then ['_', asciiLower c] else [c]

/-- A small letter or digit is no capital. -/
theorem isAsciiUpper_eq_false {c : Char} (hc : isAsciiLower c || isAsciiDigit c) :
    isAsciiUpper c = false :=
  of_isAsciiLower_or_isAsciiDigit (P := fun c => isAsciiUpper c = false) (by decide +kernel) hc

/-- Words in lower case are read back as they stand. -/
theorem uncamel_of_ascii {s : List Char} (h : ∀ c ∈ s, isAsciiLower c || isAsciiDigit c) :
    uncamel s = s := by
  induction s with
  | nil => rfl
  | cons c s ih =>
    rw [List.forall_mem_cons] at h
    have := ih h.2
    simp only [uncamel] at this
    simp [uncamel, isAsciiUpper_eq_false h.1, this]

/-- The capital of a small letter is read back as the letter behind an underscore. -/
theorem uncamel_titleForm {c : Char} (hc : isAsciiLower c = true) :
    uncamel (titleForm c) = ['_', c] :=
  of_isAsciiLower_or_isAsciiDigit
    (P := fun c => isAsciiLower c = true → uncamel (titleForm c) = ['_', c])
    (by decide +kernel) (by simp [hc]) hc

theorem uncamel_append (s t : List Char) : uncamel (s ++ t) = uncamel s ++ uncamel t :=
  List.flatMap_append

/-- A capitalized word is read back as the word behind an underscore. -/
theorem uncamel_capitalize {w : List Char} (hw : isSnakeWord w = true)
    (hhead : w.head?.any isAsciiLower = true) : uncamel (capitalize w) = '_' :: w := by
  cases w with
  | nil => exact absurd hw (by simp [isSnakeWord])
  | cons c w =>
    simp only [isSnakeWord, Bool.and_eq_true, List.all_eq_true, List.forall_mem_cons] at hw
    simp only [List.head?_cons, Option.any_some] at hhead
    rw [capitalize, uncamel_append, uncamel_titleForm hhead, lowerAfter_of_ascii hw.2.2,
      uncamel_of_ascii hw.2.2]
    rfl

/-- Capitalized words are read back as words behind underscores. -/
theorem uncamel_flatMap_capitalize {ws : List (List Char)}
    (h : ∀ w ∈ ws, isSnakeWord w = true ∧ w.head?.any isAsciiLower = true) :
    uncamel (ws.flatMap capitalize) = ws.flatMap ('_' :: ·) := by
  induction ws with
  | nil => rfl
  | cons w ws ih =>
    rw [List.forall_mem_cons] at h
    rw [List.flatMap_cons, List.flatMap_cons, uncamel_append, uncamel_capitalize h.1.1 h.1.2,
      ih h.2]

/-- Words joined by underscores are the first word and then each word behind an underscore. -/
theorem intercalate_underscore (first : List Char) (rest : List (List Char)) :
    List.intercalate ['_'] (first :: rest) = first ++ rest.flatMap ('_' :: ·) := by
  induction rest generalizing first with
  | nil => simp
  | cons w ws ih =>
    rw [List.intercalate_cons_cons, ih w]
    simp

/-- **Plain snake case can be read back from its camel case.** -/
theorem uncamel_camelJoin_segments {name : String} (h : isSnakeName name = true) :
    uncamel (camelJoin (segments name.toList)) = name.toList := by
  have hjoin := intercalate_pieces '_' name.toList
  unfold isSnakeName at h
  unfold segments
  cases hws : pieces (· == '_') name.toList with
  | nil => exact absurd hws (pieces_ne_nil _ _)
  | cons first rest =>
    rw [hws] at hjoin
    simp only [hws, Bool.and_eq_true, List.all_eq_true] at h
    obtain ⟨hfirst, hrest⟩ := h
    -- no word is empty, so every piece is a segment
    have hsegments : (first :: rest).filter (!·.isEmpty) = first :: rest := by
      rw [List.filter_eq_self, List.forall_mem_cons]
      simp only [isSnakeWord, Bool.and_eq_true] at hfirst hrest
      exact ⟨hfirst.1, fun w hw => (hrest w hw).1.1⟩
    simp only [isSnakeWord, Bool.and_eq_true, List.all_eq_true] at hfirst
    rw [hsegments, camelJoin, uncamel_append, lower, lowerAfter_of_ascii hfirst.2,
      uncamel_of_ascii hfirst.2, uncamel_flatMap_capitalize hrest, ← intercalate_underscore, hjoin]

/-- Camel case tells names in plain snake case apart. -/
theorem camelCase_injective_of_isSnakeName {a b : String} (ha : isSnakeName a = true)
    (hb : isSnakeName b = true) (h : camelCase a = camelCase b) : a = b := by
  have hjoin : camelJoin (segments a.toList) = camelJoin (segments b.toList) :=
    String.ofList_injective h
  rw [← String.toList_inj, ← uncamel_camelJoin_segments ha, hjoin, uncamel_camelJoin_segments hb]

/-! ## Names kept apart -/

/-- Camel case sends no two of the names to one property. -/
def KeptApart (names : List String) : Prop :=
  ∀ a ∈ names, ∀ b ∈ names, camelCase a = camelCase b → a = b

instance (names : List String) : Decidable (KeptApart names) :=
  inferInstanceAs (Decidable (∀ a ∈ names, ∀ b ∈ names, camelCase a = camelCase b → a = b))

/-- Names in plain snake case are kept apart. -/
theorem keptApart_of_isSnakeName {names : List String}
    (h : ∀ name ∈ names, isSnakeName name = true) : KeptApart names := by
  intro a ha b hb hab
  exact camelCase_injective_of_isSnakeName (h a ha) (h b hb) hab

/-- A doubled underscore is lost, and with it the difference between two names. -/
example : ¬ KeptApart ["chat_id", "chat__id"] := by decide +kernel

end ApiBindings.Naming
