import ApiBindings.Proofs.Bindings.Leaves
/-!
# Written types can be read in one way

The parts of a written type are told apart by brackets and commas. Where the written names have none
of these, a text is the written form of no two types, and a type ends in one place only, whatever
follows it. Main statement: two types are written alike exactly if they have the same form and the
same written names at their leaves, and so are the types of two fields exactly if moreover both may
be left out or neither (`type_eq_iff`).
-/

namespace ApiBindings.Bindings

open Reference (Field)

/-! ## Marks -/

/-- The characters that the parts of a written type are told apart by. -/
def typeMarks : List Char := ['[', ']', ',']

/-- The words that a bracket opens behind in a written type. -/
def openingWords : List String := ["list", "Either", "Optional"]

theorem not_mem_openingWord : ∀ word ∈ openingWords, ∀ c ∈ typeMarks, c ∉ word.toList := by
  simp [openingWords, typeMarks]

/-- The names of the type are written without marks. -/
def HasPlainLeaves (n : Names) (t : TypeExpr) : Prop :=
  ∀ name ∈ t.leaves, ∀ c ∈ typeMarks, c ∉ (n.scalar name).toList

instance (n : Names) (t : TypeExpr) : Decidable (HasPlainLeaves n t) :=
  inferInstanceAs (Decidable (∀ name ∈ t.leaves, ∀ c ∈ typeMarks, c ∉ (n.scalar name).toList))

/-- What follows a part of a type: nothing, or the end of the part. -/
def FollowsPart (rest : List Char) : Prop := ∀ c ∈ rest.head?, c = ']' ∨ c = ','

theorem followsPart_nil : FollowsPart [] := by simp [FollowsPart]

theorem followsPart_bracket (rest : List Char) : FollowsPart (']' :: rest) := by
  simp [FollowsPart]

theorem followsPart_comma (rest : List Char) : FollowsPart (',' :: rest) := by simp [FollowsPart]

/-- A part ends at a mark. -/
theorem FollowsPart.mem_typeMarks {rest : List Char} (h : FollowsPart rest) :
    ∀ c ∈ rest.head?, c ∈ typeMarks := by
  intro c hc
  rcases h c hc with rfl | rfl <;> decide

/-- A word without marks ends where the first mark stands. -/
theorem word_append_injective {x y u v : List Char} (hx : ∀ c ∈ typeMarks, c ∉ x)
    (hy : ∀ c ∈ typeMarks, c ∉ y) (hu : ∀ c ∈ u.head?, c ∈ typeMarks)
    (hv : ∀ c ∈ v.head?, c ∈ typeMarks) (h : x ++ u = y ++ v) : x = y ∧ u = v := by
  induction x generalizing y with
  | nil =>
    cases y with
    | nil => exact ⟨rfl, h⟩
    | cons d y =>
      -- the mark at the front of `u` would stand in `y`
      rw [List.nil_append] at h
      exact absurd List.mem_cons_self (hy d (hu d (by simp [h])))
  | cons c x ih =>
    cases y with
    | nil =>
      rw [List.nil_append] at h
      exact absurd List.mem_cons_self (hx c (hv c (by simp [← h])))
    | cons d y =>
      rw [List.cons_append, List.cons_append, List.cons.injEq] at h
      have hx' : ∀ e ∈ typeMarks, e ∉ x := fun e he hmem => hx e he (List.mem_cons_of_mem c hmem)
      have hy' : ∀ e ∈ typeMarks, e ∉ y := fun e he hmem => hy e he (List.mem_cons_of_mem d hmem)
      obtain ⟨rfl, huv⟩ := ih hx' hy' h.2
      exact ⟨by rw [h.1], huv⟩

/-! ## Types -/

section Types

variable {n : Names}

theorem toList_type_list (item : TypeExpr) :
    (n.type (.list item)).toList = "list".toList ++ '[' :: ((n.type item).toList ++ [']']) := by
  simp [Names.type]

theorem toList_type_sum (left right : TypeExpr) :
    (n.type (.sum left right)).toList = "Either".toList ++
      '[' :: ((n.type left).toList ++ ',' :: ' ' :: ((n.type right).toList ++ [']'])) := by
  simp [Names.type]

/-- A plain scalar is not written like a word with a part in brackets. -/
theorem scalar_append_ne {x word : String} {u v : List Char} (hx : HasPlainLeaves n (.scalar x))
    (hword : word ∈ openingWords) (hu : FollowsPart u) :
    (n.type (.scalar x)).toList ++ u ≠ word.toList ++ '[' :: v := by
  intro h
  have hname : ∀ c ∈ typeMarks, c ∉ (n.scalar x).toList := hx x (by simp [TypeExpr.leaves])
  obtain ⟨-, rfl⟩ := word_append_injective hname (not_mem_openingWord word hword) hu.mem_typeMarks
    (by simp [typeMarks]) h
  simpa using hu '[' (by simp)

/-- **A written type ends in one place,** and up to there says what the type is. -/
theorem type_append_injective {a b : TypeExpr} {u v : List Char} (ha : HasPlainLeaves n a)
    (hb : HasPlainLeaves n b) (hu : FollowsPart u) (hv : FollowsPart v)
    (h : (n.type a).toList ++ u = (n.type b).toList ++ v) :
    a.rename n.scalar = b.rename n.scalar ∧ u = v := by
  induction a generalizing b u v with
  | scalar x =>
    cases b with
    | scalar y =>
      have hx : ∀ c ∈ typeMarks, c ∉ (n.scalar x).toList := ha x (by simp [TypeExpr.leaves])
      have hy : ∀ c ∈ typeMarks, c ∉ (n.scalar y).toList := hb y (by simp [TypeExpr.leaves])
      obtain ⟨hname, huv⟩ := word_append_injective hx hy hu.mem_typeMarks hv.mem_typeMarks h
      exact ⟨congrArg TypeExpr.scalar (String.toList_inj.1 hname), huv⟩
    | list item =>
      rw [toList_type_list, List.append_assoc] at h
      exact absurd h (scalar_append_ne ha (by simp [openingWords]) hu)
    | sum left right =>
      rw [toList_type_sum, List.append_assoc] at h
      exact absurd h (scalar_append_ne ha (by simp [openingWords]) hu)
  | list item ih =>
    cases b with
    | scalar y =>
      rw [toList_type_list, List.append_assoc] at h
      exact absurd h.symm (scalar_append_ne hb (by simp [openingWords]) hv)
    | list item' =>
      simp only [toList_type_list, List.append_assoc, List.cons_append, List.nil_append,
        List.append_cancel_left_eq, List.cons.injEq, true_and] at h
      obtain ⟨hitem, hrest⟩ :=
        ih (b := item') ha hb (followsPart_bracket u) (followsPart_bracket v) h
      rw [List.cons.injEq] at hrest
      exact ⟨congrArg TypeExpr.list hitem, hrest.2⟩
    | sum left right =>
      -- the opening words differ in their first letter
      rw [toList_type_list, toList_type_sum] at h
      simp at h
  | sum left right ihleft ihright =>
    cases b with
    | scalar y =>
      rw [toList_type_sum, List.append_assoc] at h
      exact absurd h.symm (scalar_append_ne hb (by simp [openingWords]) hv)
    | list item =>
      rw [toList_type_list, toList_type_sum] at h
      simp at h
    | sum left' right' =>
      simp only [HasPlainLeaves, TypeExpr.leaves, List.forall_mem_append] at ha hb
      simp only [toList_type_sum, List.append_assoc, List.cons_append, List.nil_append,
        List.append_cancel_left_eq, List.cons.injEq, true_and] at h
      obtain ⟨hleft, hrest⟩ := ihleft ha.1 hb.1 (followsPart_comma _) (followsPart_comma _) h
      simp only [List.cons.injEq, true_and] at hrest
      obtain ⟨hright, huv⟩ :=
        ihright ha.2 hb.2 (followsPart_bracket u) (followsPart_bracket v) hrest
      rw [List.cons.injEq] at huv
      refine ⟨?_, huv.2⟩
      rw [TypeExpr.rename, TypeExpr.rename, hleft, hright]

/-- Types are written alike exactly if they have the same form and written names. -/
theorem type_eq_iff_rename_eq {a b : TypeExpr} (ha : HasPlainLeaves n a)
    (hb : HasPlainLeaves n b) : n.type a = n.type b ↔ a.rename n.scalar = b.rename n.scalar := by
  constructor
  · intro h
    exact (type_append_injective ha hb followsPart_nil followsPart_nil (by rw [h])).1
  · intro h
    rw [type_eq_verbatim n a, type_eq_verbatim n b, h]

/-! ## Fields -/

/-- No type is written like one that may be left out. -/
theorem optional_ne_type {a b : TypeExpr} (hb : HasPlainLeaves n b) :
    "Optional[" ++ n.type a ++ "]" ≠ n.type b := by
  intro h
  have hopening : ("Optional[" ++ n.type a ++ "]").toList =
      "Optional".toList ++ '[' :: ((n.type a).toList ++ [']']) := by simp
  have hlist := (congrArg String.toList h).symm
  rw [hopening] at hlist
  cases b with
  | scalar x =>
    rw [← List.append_nil (n.type (.scalar x)).toList] at hlist
    exact scalar_append_ne hb (by simp [openingWords]) followsPart_nil hlist
  | list item =>
    rw [toList_type_list] at hlist
    simp at hlist
  | sum left right =>
    rw [toList_type_sum] at hlist
    simp at hlist

/-- The written type of a field that has one. -/
theorem fieldType_of_type {f : Field} {t : TypeExpr} (h : f.type = some t) :
    n.fieldType f = if f.isOptional then "Optional[" ++ n.type t ++ "]" else n.type t := by
  rw [Names.fieldType, h]
  rfl

/-- **Written types are read in one way.** Let the names of two types be written without brackets
and commas. The types are written alike exactly if they have lists and choices in the same places
and the same written name at each leaf, and the types of two fields exactly if moreover both fields
may be left out or neither. -/
theorem type_eq_iff (n : Names) {a b : TypeExpr} (ha : HasPlainLeaves n a)
    (hb : HasPlainLeaves n b) :
    (n.type a = n.type b ↔ a.rename n.scalar = b.rename n.scalar) ∧
    ∀ f g : Field, f.type = some a → g.type = some b →
      (n.fieldType f = n.fieldType g ↔
        a.rename n.scalar = b.rename n.scalar ∧ f.isOptional = g.isOptional) := by
  have htype := type_eq_iff_rename_eq ha hb
  refine ⟨htype, ?_⟩
  intro f g hf hg
  rw [fieldType_of_type hf, fieldType_of_type hg, ← htype]
  cases f.isOptional <;> cases g.isOptional
  · simp
  · simpa using (optional_ne_type ha).symm
  · simpa using optional_ne_type hb
  · simp [String.append_right_inj, String.append_left_inj]

end Types

/-- With a comma in a name it is not to be seen where the first alternative ends. -/
example : verbatim.type (.sum (.scalar "A, B") (.scalar "C")) =
    verbatim.type (.sum (.scalar "A") (.scalar "B, C")) := by decide

/-- A list of numbers or photos. -/
def numbersOrPhotos : TypeExpr := .list (.sum (.scalar "Int") (.scalar "Photo"))

/-- A list of numbers, or a photo. -/
def numbersOrPhoto : TypeExpr := .sum (.list (.scalar "Int")) (.scalar "Photo")

/-- Numbers are written in small letters. -/
def smallInt : Names := { scalars := [("Int", "int")] }

/-- A list of alternatives is not written like an alternative that is a list. -/
theorem type_eq_iff_numbersOrPhotos :
    HasPlainLeaves smallInt numbersOrPhotos ∧ HasPlainLeaves smallInt numbersOrPhoto ∧
      smallInt.type numbersOrPhotos = "list[Either[int, Photo]]" ∧
      smallInt.type numbersOrPhoto = "Either[list[int], Photo]" ∧
      smallInt.type numbersOrPhotos ≠ smallInt.type numbersOrPhoto ∧
      smallInt.fieldType { type := some numbersOrPhoto } ≠
        smallInt.fieldType { type := some numbersOrPhoto, requirement := .required } := by
  have hnames : smallInt.scalar "Int" = "int" ∧ smallInt.scalar "Photo" = "Photo" := by decide
  have hfirst : HasPlainLeaves smallInt numbersOrPhotos := by
    simp [HasPlainLeaves, numbersOrPhotos, TypeExpr.leaves, typeMarks, hnames]
  have hsecond : HasPlainLeaves smallInt numbersOrPhoto := by
    simp [HasPlainLeaves, numbersOrPhoto, TypeExpr.leaves, typeMarks, hnames]
  refine ⟨hfirst, hsecond, by decide +kernel, by decide +kernel, ?_, ?_⟩
  · rw [Ne, (type_eq_iff smallInt hfirst hsecond).1]
    decide
  · rw [Ne, (type_eq_iff smallInt hsecond hsecond).2 _ _ rfl rfl]
    decide

end ApiBindings.Bindings
