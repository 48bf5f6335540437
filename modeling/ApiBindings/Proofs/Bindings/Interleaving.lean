import ApiBindings.Proofs.Bindings.Emission
import ApiBindings.Proofs.Bindings.Leaves
/-!
# Two accumulations

Classes and functions are put together apart from each other, and what stands for a union without a
class is known before either begins. So it does not matter where in a list of definitions the
unions without a class stand, nor how classes and operations are mixed. Main statement: two lists
with the same classes, the same operations and the same unions without a class, each named once,
give the same modules (`modules_eq_of_same_parts`).
-/

namespace ApiBindings.Bindings

/-! ## Code under two tables of names -/

section Congruence

variable {n n' : Names}

/-- The code of a definition depends on how names are written and on nothing else. -/
theorem definitionCode_congr (h : n.scalar = n'.scalar) (s : Settings) (d : Definition) :
    definitionCode s n d = definitionCode s n' d := by
  cases d with
  | record r =>
    show recordCode n s.bases r = recordCode n' s.bases r
    rw [recordCode_eq_verbatim, recordCode_eq_verbatim n', h]
  | operation o =>
    show operationCode n o = operationCode n' o
    rw [operationCode_eq_verbatim, operationCode_eq_verbatim n', h]
  | union u =>
    have hvariants : variantsOf n u = variantsOf n' u := by
      unfold variantsOf
      rw [h]
    show unionCode n s.fastInitialization u = unionCode n' s.fastInitialization u
    unfold unionCode unionLines
    rw [hvariants]

end Congruence

/-! ## Unions named once -/

/-- The unions without a class, each with what stands for it. -/
def standIns (ds : List Definition) : List (String × String) :=
  (classless ds).map fun u => (u.name, standIn u)

section NamedOnce

variable {ds ds' : List Definition} (once : ((unionsOf ds).map (·.name)).Nodup)
include once

theorem nodup_classlessNames : (classlessNames ds).Nodup := by
  unfold classlessNames
  rw [classless_eq_filter]
  exact once.sublist (List.filter_sublist.map _)

/-- Where no name is used twice, no class is lost. -/
theorem noneLost_of_nodup : NoneLost ds := by
  intro u hu hclass hname
  obtain ⟨v, hv, hsame⟩ := List.mem_map.1 hname
  obtain ⟨hmem, hno⟩ := mem_classless.1 hv
  -- the union without a class would be the one that asks for it
  have heq := List.inj_on_of_nodup_map once (mem_unionsOf.2 hmem) (mem_unionsOf.2 hu) hsame
  rw [heq, hclass] at hno
  cases hno

/-- Where no name is used twice, the pairs say what stands for a name, in whatever order. -/
theorem lookup_eq_some_iff (name text : String) :
    (substitutionsFor ds).lookup name = some text ↔ (name, text) ∈ standIns ds := by
  rw [lookup_substitutionsFor, Option.map_eq_some_iff]
  unfold standIns
  rw [List.mem_map]
  constructor
  · rintro ⟨u, hu, rfl⟩
    obtain ⟨hmem, rfl⟩ := lastNamed_eq_some hu
    exact ⟨u, hmem, rfl⟩
  · rintro ⟨u, hu, hpair⟩
    cases hpair
    exact ⟨u, lastNamed_of_nodup (nodup_classlessNames once) hu, rfl⟩

/-- Two lists with the same unions without a class, each named once, write names the same way. -/
theorem scalar_namesOf_eq (once' : ((unionsOf ds').map (·.name)).Nodup)
    (hsame : ∀ p, p ∈ standIns ds ↔ p ∈ standIns ds') (s : Settings) :
    (namesOf s ds).scalar = (namesOf s ds').scalar := by
  funext name
  have hlookup : (substitutionsFor ds).lookup name = (substitutionsFor ds').lookup name := by
    apply Option.ext
    intro text
    rw [lookup_eq_some_iff once, lookup_eq_some_iff once']
    exact hsame (name, text)
  rw [scalar_namesOf, scalar_namesOf, standsFor_eq, standsFor_eq, hlookup]

/-- Where no name is used twice, all classes and all operations count. -/
theorem count_of_nodup (s : Settings) :
    (Sources.ofDefinitions s ds).count = (classesOf ds).length + (operationsOf ds).length := by
  show (ds.filterMap (typeBlock? s (namesOf s ds))).length +
    (ds.filterMap (operationBlock? (namesOf s ds))).length = _
  rw [filterMap_typeBlock?, filterMap_operationBlock? s, List.length_map, List.length_map,
    (filter_isEmitted_eq_iff ds).2 (noneLost_of_nodup once)]

end NamedOnce

/-- **Two independent accumulations.** Let two lists of definitions use no union name twice. If they
have the same classes in the same order, the same operations in the same order, and the same unions
without a class with what stands for them, in whatever order and however the three are mixed, then
they give the same two modules and the same count. In every list the count and the warnings make up
the number of definitions. -/
theorem modules_eq_of_same_parts (s : Settings) :
    (∀ ds : List Definition, (Sources.ofDefinitions s ds).count +
      (Sources.ofDefinitions s ds).warnings.length = ds.length) ∧
    ∀ ds ds' : List Definition, ((unionsOf ds).map (·.name)).Nodup →
      ((unionsOf ds').map (·.name)).Nodup → classesOf ds = classesOf ds' →
      operationsOf ds = operationsOf ds' → (∀ p, p ∈ standIns ds ↔ p ∈ standIns ds') →
      (Sources.ofDefinitions s ds).types = (Sources.ofDefinitions s ds').types ∧
        (Sources.ofDefinitions s ds).operations = (Sources.ofDefinitions s ds').operations ∧
        (Sources.ofDefinitions s ds).count = (Sources.ofDefinitions s ds').count := by
  refine ⟨fun ds => length_add_length_add_length s (namesOf s ds) ds, ?_⟩
  intro ds ds' once once' hclasses hoperations hsame
  have hcode : definitionCode s (namesOf s ds) = definitionCode s (namesOf s ds') := by
    funext d
    exact definitionCode_congr (scalar_namesOf_eq once once' hsame s) s d
  have htypes : ∀ {es : List Definition}, ((unionsOf es).map (·.name)).Nodup →
      (Sources.ofDefinitions s es).types =
        typesModuleText s ((classesOf es).map (definitionCode s (namesOf s es))) := by
    intro es once
    rw [types_ofDefinitions, (filter_isEmitted_eq_iff es).2 (noneLost_of_nodup once)]
  refine ⟨?_, ?_, ?_⟩
  · rw [htypes once, htypes once', hclasses, hcode]
  · rw [operations_ofDefinitions, operations_ofDefinitions, hoperations, hcode]
  · rw [count_of_nodup once, count_of_nodup once', hclasses, hoperations]

/-- A union without a class stands between the record and the operation that name it. -/
def sendItem : List Definition := [
  .record { title := "Item", fields := [{ name := some "media", type := some (.scalar "Media") }] },
  .union { name := "Media", cases := ["Photo"] },
  .operation {
    title := "sendItem"
    fields := [{ name := some "media", type := some (.list (.scalar "Media")) }] },
  .union { name := "Reply", cases := ["Item", "Failure"] },
  .union { name := "Nothing" }]

/-- The same with what has no class last and in another order. -/
def sendItemFirst : List Definition :=
  (operationsOf sendItem ++ classesOf sendItem) ++ ((classless sendItem).map .union).reverse

/-- The union without a class may stand before or behind what names it. -/
theorem modules_eq_of_same_parts_sendItem :
    (Sources.ofDefinitions Settings.plain sendItem).types =
        (Sources.ofDefinitions Settings.plain sendItemFirst).types ∧
      (Sources.ofDefinitions Settings.plain sendItem).operations =
        (Sources.ofDefinitions Settings.plain sendItemFirst).operations ∧
      (Sources.ofDefinitions Settings.plain sendItem).count =
        (Sources.ofDefinitions Settings.plain sendItemFirst).count := by
  have hstandIns : (standIns sendItem).Perm (standIns sendItemFirst) := by decide
  exact (modules_eq_of_same_parts Settings.plain).2 sendItem sendItemFirst (by decide) (by decide)
    (by decide) (by decide) fun p => hstandIns.mem_iff

end ApiBindings.Bindings
