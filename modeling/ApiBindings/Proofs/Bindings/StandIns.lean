import ApiBindings.Bindings.Module
import ApiBindings.Proofs.Entries
import Mathlib.Data.List.Induction
import Mathlib.Data.List.Nodup
/-!
# Unions without a class

A union with fewer than two cases has no class, and wherever a type names it something else is
written. What is written is kept by the name of the union, so all unions of a name share it. Main
statements: the last union of a name that has no class says what stands for it
(`lookup_substitutionsFor`), and something stands for a name exactly if it is that of a union
without a class (`isSome_lookup_substitutionsFor`).
-/

namespace ApiBindings

open Bindings (hasClass)

/-- The union that a definition is, if it is one. -/
def Definition.union? : Definition → Option Union
  | .union u => some u
  | _ => none

/-- The union that a definition is, if it is one that has no class. -/
def Definition.classless? : Definition → Option Union
  | .union u => if hasClass u then none else some u
  | _ => none

namespace Bindings

/-! ## Unions of a list of definitions -/

/-- The unions among some definitions, in their order. -/
def unionsOf (ds : List Definition) : List Union := ds.filterMap (·.union?)

/-- The unions among some definitions that have no class. -/
def classless (ds : List Definition) : List Union := ds.filterMap (·.classless?)

/-- The names of the unions that have no class. -/
def classlessNames (ds : List Definition) : List String := (classless ds).map (·.name)

/-- The modules hold code of the definition: it is no union with the name of one that has no
class. -/
def isEmitted (ds : List Definition) (d : Definition) : Bool :=
  d.union?.all fun u => !(classlessNames ds).contains u.name

/-- The last of some unions with the given name. -/
def lastNamed (name : String) (us : List Union) : Option Union :=
  us.reverse.find? (·.name == name)

theorem mem_unionsOf {ds : List Definition} {u : Union} :
    u ∈ unionsOf ds ↔ .union u ∈ ds := by
  unfold unionsOf
  rw [List.mem_filterMap]
  constructor
  · rintro ⟨d, hd, hu⟩
    cases d with
    | union v =>
      cases hu
      exact hd
    | record r => cases hu
    | operation o => cases hu
  · intro hu
    exact ⟨.union u, hu, rfl⟩

/-- The unions without a class are those of all unions with fewer than two cases. -/
theorem classless_eq_filter (ds : List Definition) :
    classless ds = (unionsOf ds).filter (!hasClass ·) := by
  unfold classless unionsOf
  rw [List.filter_filterMap]
  congr 1
  funext d
  cases d with
  | union u =>
    unfold Definition.classless? Definition.union? Option.filter
    by_cases h : hasClass u = true <;> simp [h]
  | record r => rfl
  | operation o => rfl

theorem mem_classless {ds : List Definition} {u : Union} :
    u ∈ classless ds ↔ .union u ∈ ds ∧ hasClass u = false := by
  rw [classless_eq_filter, List.mem_filter, mem_unionsOf, Bool.not_eq_true']

/-- One more union is the last of its name. -/
theorem lastNamed_concat (name : String) (us : List Union) (u : Union) :
    lastNamed name (us ++ [u]) = if u.name = name then some u else lastNamed name us := by
  unfold lastNamed
  rw [List.reverse_concat, List.find?_cons]
  by_cases h : u.name = name
  · simp [h]
  · have hne : (u.name == name) = false := by simpa using h
    simp only [hne, if_neg h]

theorem lastNamed_eq_some {name : String} {us : List Union} {u : Union}
    (h : lastNamed name us = some u) : u ∈ us ∧ u.name = name := by
  refine ⟨List.mem_reverse.1 (List.mem_of_find?_eq_some h), ?_⟩
  simpa using List.find?_some h

theorem isSome_lastNamed_iff {name : String} {us : List Union} :
    (lastNamed name us).isSome = true ↔ name ∈ us.map (·.name) := by
  unfold lastNamed
  simp [List.find?_isSome]

/-- Where no name is used twice, each union is the last of its name. -/
theorem lastNamed_of_nodup {us : List Union} (h : (us.map (·.name)).Nodup) {u : Union}
    (hu : u ∈ us) : lastNamed u.name us = some u := by
  have hsome : (lastNamed u.name us).isSome = true :=
    isSome_lastNamed_iff.2 (List.mem_map_of_mem hu)
  obtain ⟨v, hv⟩ := Option.isSome_iff_exists.1 hsome
  obtain ⟨hmem, hname⟩ := lastNamed_eq_some hv
  rw [hv, List.inj_on_of_nodup_map h hmem hu hname]

/-! ## What stands for a name -/

/-- A union without a class adds what stands for its name, in place of what stood for it. -/
theorem substitutionsFor_concat (ds : List Definition) (d : Definition) :
    substitutionsFor (ds ++ [d]) =
      match d.classless? with
      | some u => (u.name, standIn u) :: (substitutionsFor ds).filter (·.1 != u.name)
      | none => substitutionsFor ds := by
  unfold substitutionsFor Definition.classless?
  rw [List.foldl_append, List.foldl_cons, List.foldl_nil]
  cases d with
  | union u => by_cases h : hasClass u = true <;> simp only [h, ↓reduceIte, Bool.false_eq_true]
  | record r => rfl
  | operation o => rfl

/-- **The last union of a name that has no class says what stands for it.** -/
theorem lookup_substitutionsFor (ds : List Definition) (name : String) :
    (substitutionsFor ds).lookup name = (lastNamed name (classless ds)).map standIn := by
  -- the table is built from the left, so the last definition is taken off
  induction ds using List.reverseRecOn with
  | nil => rfl
  | append_singleton ds d ih =>
    unfold classless
    rw [substitutionsFor_concat, List.filterMap_append, ← classless]
    cases hd : d.classless? with
    | none =>
      rw [List.filterMap_cons_none hd, List.filterMap_nil, List.append_nil]
      exact ih
    | some u =>
      rw [List.filterMap_cons_some hd, List.filterMap_nil, lastNamed_concat]
      dsimp only
      rw [List.lookup_cons]
      by_cases h : u.name = name
      · simp [h]
      · have hne : (name == u.name) = false := by simpa using Ne.symm h
        simp only [hne, if_neg h]
        rw [lookup_filter_of_ne (Ne.symm h), ih]

theorem isSome_lookup_substitutionsFor (ds : List Definition) (name : String) :
    ((substitutionsFor ds).lookup name).isSome = true ↔ name ∈ classlessNames ds := by
  rw [lookup_substitutionsFor, Option.isSome_map, isSome_lastNamed_iff]
  rfl

/-! ## Names under a list of definitions -/

/-- How names are written in the modules for some definitions. -/
def namesOf (s : Settings) (ds : List Definition) : Names := namesFor s (substitutionsFor ds)

/-- A scalar as the settings write it. -/
def writtenScalar (s : Settings) (name : String) : String := (s.scalars.lookup name).getD name

/-- What stands for a name: the lone case of the last union of that name that has no class, or the
name itself if there is none. -/
def standsFor (ds : List Definition) (name : String) : String :=
  ((lastNamed name (classless ds)).map standIn).getD name

theorem standsFor_eq (ds : List Definition) (name : String) :
    standsFor ds name = ((substitutionsFor ds).lookup name).getD name := by
  rw [standsFor, lookup_substitutionsFor]

/-- A scalar is written as the settings write what stands for it. -/
theorem scalar_namesOf (s : Settings) (ds : List Definition) (name : String) :
    (namesOf s ds).scalar name = writtenScalar s (standsFor ds name) := by
  rw [standsFor_eq]
  rfl

end Bindings

end ApiBindings
