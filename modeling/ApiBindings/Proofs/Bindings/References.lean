import ApiBindings.Proofs.Bindings.Leaves
import ApiBindings.Proofs.Bindings.StandIns
import ApiBindings.Proofs.Bindings.Tags
/-!
# References to unions without a class

What stands for a union without a class is looked up once. So a type may still come to name a union
without a class: where the lone case of one is the name of another, or where the settings write a
scalar that way. Main statement: no type in the modules names a union without a class exactly if
none of the names in these types leads to one in this way (`noneDangles_iff`).
-/

namespace ApiBindings

/-- The types that the code of a definition names. -/
def Definition.types : Definition → List TypeExpr
  | .record r => r.fields.filterMap (·.type)
  | .union u => u.cases.map .scalar
  | .operation o => o.fields.filterMap (·.type)

namespace Bindings

/-- No type in the modules for some definitions has a union without a class among its written
names. -/
def NoneDangles (s : Settings) (ds : List Definition) : Prop :=
  ∀ d ∈ ds, isEmitted ds d = true → ∀ t ∈ d.types,
    ∀ name ∈ (t.rename (namesOf s ds).scalar).leaves, name ∉ classlessNames ds

/-- A name leads to no union without a class: neither what stands for it, if it is that of such a
union, nor itself, if it is not, is written as the name of one. -/
structure LeadsApart (s : Settings) (ds : List Definition) (name : String) : Prop where
  standIn_apart : ∀ u, lastNamed name (classless ds) = some u →
    writtenScalar s (standIn u) ∉ classlessNames ds
  name_apart : name ∉ classlessNames ds → writtenScalar s name ∉ classlessNames ds

/-- **A name is written as that of no union without a class exactly if it leads to none.** -/
theorem scalar_not_mem_iff (s : Settings) (ds : List Definition) (name : String) :
    (namesOf s ds).scalar name ∉ classlessNames ds ↔ LeadsApart s ds name := by
  have hnamed : (lastNamed name (classless ds)).isSome = true ↔ name ∈ classlessNames ds :=
    isSome_lastNamed_iff
  rw [scalar_namesOf, standsFor]
  cases hlast : lastNamed name (classless ds) with
  | none =>
    have hnot : name ∉ classlessNames ds := by
      rw [← hnamed, hlast]
      simp
    constructor
    · intro h
      exact ⟨by simp [hlast], fun _ => h⟩
    · intro h
      exact h.name_apart hnot
  | some u =>
    have hmem : name ∈ classlessNames ds := by
      rw [← hnamed, hlast]
      rfl
    constructor
    · intro h
      refine ⟨?_, fun hnot => absurd hmem hnot⟩
      intro v hv
      cases hlast.symm.trans hv
      exact h
    · intro h
      exact h.standIn_apart u hlast

/-- Names lead to no union without a class if neither what stands for one nor a scalar of the
settings is written as one. -/
theorem leadsApart_of_forall {s : Settings} {ds : List Definition}
    (hstandIn : ∀ u ∈ classless ds, writtenScalar s (standIn u) ∉ classlessNames ds)
    (hscalars : ∀ e ∈ s.scalars, e.2 ∉ classlessNames ds) (name : String) :
    LeadsApart s ds name := by
  constructor
  · intro u hu
    exact hstandIn u (lastNamed_eq_some hu).1
  · intro hname
    unfold writtenScalar
    cases htext : s.scalars.lookup name with
    | none => exact hname
    | some text =>
      obtain ⟨before, after, hsplit, -⟩ := List.lookup_eq_some_iff.1 htext
      exact hscalars (name, text) (by simp [hsplit])

/-- **When no type names a union without a class.** The code of a record or an operation is the one
with the written names in place of the scalars of its types, and the code of a union has the written
names of its cases for types. None of these names is that of a union without a class exactly if
none of the names that they are written for leads to one; this is so if neither what stands for a
union without a class nor a scalar of the settings is written as the name of one. -/
theorem noneDangles_iff (s : Settings) (ds : List Definition) :
    (∀ r, recordCode (namesOf s ds) s.bases r =
      recordCode verbatim s.bases (r.rename (namesOf s ds).scalar)) ∧
    (∀ o, operationCode (namesOf s ds) o =
      operationCode verbatim (o.rename (namesOf s ds).scalar)) ∧
    (∀ u, (variantsOf (namesOf s ds) u).map Prod.snd = u.cases.map (namesOf s ds).scalar) ∧
    (NoneDangles s ds ↔ ∀ d ∈ ds, isEmitted ds d = true → ∀ t ∈ d.types, ∀ name ∈ t.leaves,
      LeadsApart s ds name) ∧
    ((∀ u ∈ classless ds, writtenScalar s (standIn u) ∉ classlessNames ds) →
      (∀ e ∈ s.scalars, e.2 ∉ classlessNames ds) → NoneDangles s ds) := by
  have hiff : NoneDangles s ds ↔ ∀ d ∈ ds, isEmitted ds d = true → ∀ t ∈ d.types,
      ∀ name ∈ t.leaves, LeadsApart s ds name := by
    unfold NoneDangles
    simp only [TypeExpr.leaves_rename, List.forall_mem_map, scalar_not_mem_iff]
  refine ⟨recordCode_eq_verbatim _ _, operationCode_eq_verbatim _, map_snd_variantsOf _, hiff, ?_⟩
  intro hstandIn hscalars
  rw [hiff]
  intro d _ _ t _ name _
  exact leadsApart_of_forall hstandIn hscalars name

/-- A record with a medium. -/
def mediumItem : Record :=
  { title := "Item", fields := [{ name := some "media", type := some (.scalar "Media") }] }

/-- The union of all media has one case, itself a union of one case. -/
def chainedMedia : List Definition := [
  .union { name := "Media", cases := ["Picture"] },
  .union { name := "Picture", cases := ["Photo"] },
  .record mediumItem]

/-- A chain of two lone cases leaves a name that no class has, a chain of one does not. -/
theorem noneDangles_iff_chainedMedia :
    ¬ NoneDangles Settings.plain chainedMedia ∧
      NoneDangles Settings.plain (chainedMedia.drop 1) := by
  constructor
  · intro h
    have hleads := (noneDangles_iff Settings.plain chainedMedia).2.2.2.1.1 h (.record mediumItem)
      (by decide) (by decide) (.scalar "Media") (by decide) "Media" (by decide)
    exact hleads.standIn_apart { name := "Media", cases := ["Picture"] } (by decide) (by decide)
  · exact (noneDangles_iff Settings.plain (chainedMedia.drop 1)).2.2.2.2 (by decide) (by decide)

end Bindings

end ApiBindings
