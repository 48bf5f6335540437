import ApiBindings.Bindings.Module
import ApiBindings.Proofs.TypeExpr.Spelling
/-!
# Types that are too deep

A type is written by calls within one another, as many as it is deep. Main statements: a type is
written exactly if there is room for its depth (`writeType_eq`), and so the modules for a list of
definitions are written exactly if there is room for every type of their fields
(`Sources.write_eq`). A type that a phrase spells is no deeper than the phrase is long.
-/

namespace ApiBindings

open Reference (Field)

/-! ## Depth -/

/-- How many calls within one another it takes to write a type. -/
def TypeExpr.depth : TypeExpr → Nat
  | .scalar _ => 1
  | .list item => item.depth + 1
  | .sum left right => max left.depth right.depth + 1

/-- A type is no deeper than a phrase that spells it is long. -/
theorem depth_le_of_spells {aliases : List (String × String)} {t : TypeExpr} {s : List Char}
    (h : TypeExpr.Spells aliases t s) : t.depth ≤ s.length + 1 := by
  induction h with
  | known _ => exact Nat.le_add_left _ _
  | @list item s _ ih =>
    rw [TypeExpr.depth, List.length_append]
    have hwords : TypeExpr.listWords.length = 9 := by decide
    omega
  | @sum left right s t k _ _ ihleft ihright =>
    rw [TypeExpr.depth, List.length_append, List.length_append, List.length_cons]
    omega
  | name _ => exact Nat.le_add_left _ _

/-- There is room for the type of a field. -/
def Reference.Field.Fits (room : Nat) (f : Field) : Prop := ∀ t ∈ f.type, t.depth ≤ room

/-- There is room for the types of all fields of a definition. -/
def Definition.Fits (room : Nat) (d : Definition) : Prop := ∀ f ∈ d.fields, f.Fits room

instance (room : Nat) (f : Field) : Decidable (f.Fits room) :=
  inferInstanceAs (Decidable (∀ t ∈ f.type, t.depth ≤ room))

instance (room : Nat) (d : Definition) : Decidable (d.Fits room) :=
  inferInstanceAs (Decidable (∀ f ∈ d.fields, f.Fits room))

namespace Bindings

/-! ## Writing -/

/-- **A type is written exactly if there is room for its depth**, and then as its text. -/
theorem writeType_eq (n : Names) (room : Nat) (t : TypeExpr) :
    n.writeType room t = if t.depth ≤ room then .ok (n.type t) else .error .deepNesting := by
  induction t generalizing room with
  | scalar name => cases room <;> rfl
  | list item ih =>
    cases room with
    | zero => rfl
    | succ room =>
      rw [Names.writeType, ih, TypeExpr.depth, map_ite_except]
      simp only [Nat.add_le_add_iff_right]
      rfl
  | sum left right ihleft ihright =>
    cases room with
    | zero => rfl
    | succ room =>
      have hfits : (TypeExpr.sum left right).depth ≤ room + 1 ↔
          left.depth ≤ room ∧ right.depth ≤ room := by
        rw [TypeExpr.depth, Nat.add_le_add_iff_right, Nat.max_le]
      rw [Names.writeType, ihleft, ihright]
      by_cases hleft : left.depth ≤ room
      · by_cases hright : right.depth ≤ room
        · rw [if_pos hleft, if_pos hright, if_pos (hfits.2 ⟨hleft, hright⟩)]
          rfl
        · rw [if_pos hleft, if_neg hright, if_neg fun h => hright (hfits.1 h).2]
          rfl
      · rw [if_neg hleft, if_neg fun h => hleft (hfits.1 h).1]
        rfl

/-- The type of a field is written exactly if there is room for it. -/
theorem writeFieldType_eq (n : Names) (room : Nat) (f : Field) :
    n.writeFieldType room f =
      if f.Fits room then .ok (n.fieldType f) else .error .deepNesting := by
  obtain ⟨name, phrase, type, description, requirement⟩ := f
  unfold Names.writeFieldType
  cases type with
  | none =>
    have hfits : Field.Fits room ⟨name, phrase, none, description, requirement⟩ := by
      simp [Field.Fits]
    rw [if_pos hfits]
    rfl
  | some t =>
    have hfits : Field.Fits room ⟨name, phrase, some t, description, requirement⟩ ↔
        t.depth ≤ room := by simp [Field.Fits]
    dsimp only
    rw [mapM_some_eq_map, writeType_eq, map_ite_except, map_ite_except]
    simp only [hfits]
    rfl

/-- The code of a definition is written exactly if there is room for its types. -/
theorem writeCode_eq (s : Settings) (n : Names) (d : Definition) :
    writeCode s n d =
      if d.Fits s.room.writing then .ok (definitionCode s n d) else .error .deepNesting := by
  unfold writeCode
  rw [mapM_eq_ite fun f _ => writeFieldType_eq n s.room.writing f, map_ite_except]
  rfl

end Bindings

open Bindings

/-- **The modules are written exactly if there is room for the types of all definitions**, and then
as they are stated. -/
theorem Sources.write_eq (s : Settings) (ds : List Definition) :
    Sources.write s ds =
      if ∀ d ∈ ds, d.Fits s.room.writing then .ok (Sources.ofDefinitions s ds)
      else .error .deepNesting := by
  unfold Sources.write
  rw [mapM_eq_ite fun d _ => writeCode_eq s _ d, map_ite_except]

end ApiBindings
