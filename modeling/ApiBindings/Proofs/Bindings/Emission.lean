import Mathlib.Algebra.GroupWithZero.Nat
import ApiBindings.Proofs.Bindings.StandIns
/-!
# What the modules hold

Records and unions with at least two cases ask for a class, operations for a function. A union is
passed over by its name, and so is every other union of that name. Main statements: each definition
is a class, a function or a warning (`length_add_length_add_length`), the modules hold the code of
all definitions that are not passed over, and no class is lost exactly if no union that asks for one
has the name of a union without one (`types_eq_iff_noneLost`).
-/

namespace ApiBindings

open Bindings (hasClass)

/-- The definition asks for a class: it is a record, or a union with at least two cases. -/
def Definition.asksForClass : Definition → Bool
  | .record _ => true
  | .union u => hasClass u
  | .operation _ => false

/-- The definition is an operation. -/
def Definition.isOperation : Definition → Bool
  | .operation _ => true
  | _ => false

namespace Bindings

/-! ## Kinds of definitions -/

/-- The definitions that ask for a class. -/
def classesOf (ds : List Definition) : List Definition := ds.filter (·.asksForClass)

/-- The operations. -/
def operationsOf (ds : List Definition) : List Definition := ds.filter (·.isOperation)

/-- The unions that are passed over. -/
def passedOver (ds : List Definition) : List Union :=
  (unionsOf ds).filter fun u => (classlessNames ds).contains u.name

/-- No union that asks for a class has the name of one without. -/
def NoneLost (ds : List Definition) : Prop :=
  ∀ u, .union u ∈ ds → hasClass u = true → u.name ∉ classlessNames ds

/-- A union without a class is passed over. -/
theorem name_mem_classlessNames {ds : List Definition} {u : Union} (hu : .union u ∈ ds)
    (h : hasClass u = false) : u.name ∈ classlessNames ds :=
  List.mem_map_of_mem (mem_classless.2 ⟨hu, h⟩)

/-- Where no class is lost, those that are passed over are the unions without a class. -/
theorem passedOver_eq_iff (ds : List Definition) :
    passedOver ds = classless ds ↔ NoneLost ds := by
  constructor
  · intro h u hu hclass hname
    have hmem : u ∈ passedOver ds :=
      List.mem_filter.2 ⟨mem_unionsOf.2 hu, by simpa using hname⟩
    rw [h, mem_classless, hclass] at hmem
    cases hmem.2
  · intro h
    unfold passedOver
    rw [classless_eq_filter]
    apply List.filter_congr
    intro u hu
    have hmem := mem_unionsOf.1 hu
    cases hclass : hasClass u with
    | true => simpa using h u hmem hclass
    | false => simpa using name_mem_classlessNames hmem hclass

/-! ## Blocks and warnings -/

section Blocks

variable (s : Settings)

/-- A member counts if something is made of it. -/
theorem length_filterMap_cons {α β : Type} (f : α → Option β) (a : α) (l : List α) :
    ((a :: l).filterMap f).length = (f a).toList.length + (l.filterMap f).length := by
  rw [List.filterMap_cons]
  cases f a with
  | none => simp
  | some b => simp [Nat.add_comm]

/-- **Each definition is a class, a function or a warning.** -/
theorem length_add_length_add_length (n : Names) (ds : List Definition) :
    (ds.filterMap (typeBlock? s n)).length + (ds.filterMap (operationBlock? n)).length +
      (ds.filterMap (warning? n)).length = ds.length := by
  have hone : ∀ d : Definition, (typeBlock? s n d).toList.length +
      (operationBlock? n d).toList.length + (warning? n d).toList.length = 1 := by
    intro d
    cases d with
    | record r => rfl
    | operation o => rfl
    | union u =>
      unfold typeBlock? operationBlock? warning?
      cases hl : n.substitutions.lookup u.name <;> simp [hl]
  induction ds with
  | nil => rfl
  | cons d ds ih =>
    have hd := hone d
    rw [length_filterMap_cons, length_filterMap_cons, length_filterMap_cons, List.length_cons]
    omega

/-- What is made of the members that pass a test. -/
theorem filterMap_ite_eq_map_filter {α β : Type} (p : α → Bool) (f : α → β) (l : List α) :
    l.filterMap (fun a => if p a then some (f a) else none) = (l.filter p).map f := by
  rw [← List.filterMap_eq_map, List.filterMap_filter]
  rfl

/-- A definition has a class if it asks for one and is not passed over. -/
theorem typeBlock?_eq {ds : List Definition} {d : Definition} (hd : d ∈ ds) :
    typeBlock? s (namesOf s ds) d =
      if d.asksForClass && isEmitted ds d then some (definitionCode s (namesOf s ds) d)
        else none := by
  cases d with
  | record r => rfl
  | operation o => rfl
  | union u =>
    have hlookup := isSome_lookup_substitutionsFor ds u.name
    unfold typeBlock? Definition.asksForClass isEmitted Definition.union?
    show (if ((substitutionsFor ds).lookup u.name).isSome = true then _ else _) = _
    by_cases hname : u.name ∈ classlessNames ds
    · rw [if_pos (hlookup.2 hname)]
      simp [hname]
    · rw [if_neg (mt hlookup.1 hname)]
      have hclass : hasClass u = true := by
        by_contra hno
        exact hname (name_mem_classlessNames hd (by simpa using hno))
      simp [hname, hclass, definitionCode]

theorem filterMap_typeBlock? (ds : List Definition) :
    ds.filterMap (typeBlock? s (namesOf s ds)) =
      ((classesOf ds).filter (isEmitted ds)).map (definitionCode s (namesOf s ds)) := by
  rw [List.filterMap_congr fun d hd => typeBlock?_eq s hd, filterMap_ite_eq_map_filter, classesOf,
    List.filter_filter]
  congr 2
  funext d
  exact Bool.and_comm _ _

theorem filterMap_operationBlock? (n : Names) (ds : List Definition) :
    ds.filterMap (operationBlock? n) =
      (operationsOf ds).map fun d => Text.indent 1 (definitionCode s n d) := by
  unfold operationsOf
  rw [← filterMap_ite_eq_map_filter]
  congr 1
  funext d
  cases d <;> rfl

/-- The warning about a union that is passed over. -/
def warningText (ds : List Definition) (u : Union) : String :=
  "Union " ++ u.name ++ " has " ++ toString u.cases.length ++ " case(s); using " ++
    standsFor ds u.name ++ " in its place"

theorem filterMap_warning? (ds : List Definition) :
    ds.filterMap (warning? (namesOf s ds)) = (passedOver ds).map (warningText ds) := by
  unfold passedOver unionsOf
  rw [← filterMap_ite_eq_map_filter, List.filterMap_filterMap]
  congr 1
  funext d
  cases d with
  | record r => rfl
  | operation o => rfl
  | union u =>
    have hlookup := isSome_lookup_substitutionsFor ds u.name
    show ((substitutionsFor ds).lookup u.name).map _ =
      if (classlessNames ds).contains u.name = true then some (warningText ds u) else none
    unfold warningText
    rw [standsFor_eq]
    cases htarget : (substitutionsFor ds).lookup u.name with
    | none =>
      have hname : u.name ∉ classlessNames ds := by
        rw [← hlookup, htarget]
        simp
      simp [hname]
    | some target =>
      have hname : u.name ∈ classlessNames ds := by
        rw [← hlookup, htarget]
        rfl
      simp [hname]

/-! ## The text of the types module -/

/-- The length of a text with its tabs expanded. -/
def expandedLength (text : String) : Nat := (Text.expandTabs text).length

theorem expandedLength_append (a b : String) :
    expandedLength (a ++ b) = expandedLength a + expandedLength b := by
  unfold expandedLength Text.expandTabs
  rw [← String.length_toList, ← String.length_toList, ← String.length_toList]
  simp [List.flatMap_append]

/-- Each class makes the module longer. -/
theorem length_typesModuleText (blocks : List String) :
    (typesModuleText s blocks).length =
      expandedLength (typesHeader s.namespaceName ++ prelude) +
        (blocks.map fun b => expandedLength b + 2).sum := by
  have hjoin : expandedLength (String.join (blocks.map ("\n\n" ++ ·))) =
      (blocks.map fun b => expandedLength b + 2).sum := by
    induction blocks with
    | nil => rfl
    | cons b blocks ih =>
      have hbreak : expandedLength "\n\n" = 2 := by decide
      rw [List.map_cons, String.join_cons, expandedLength_append, expandedLength_append, hbreak,
        ih, List.map_cons, List.sum_cons]
      omega
  unfold typesModuleText
  show expandedLength _ = _
  rw [expandedLength_append, hjoin]

/-- Members that do not pass a test make the sum of positive weights smaller. -/
theorem filter_eq_self_of_sum {α : Type} {p : α → Bool} {weight : α → Nat} {l : List α}
    (hpos : ∀ a, 0 < weight a) (h : (l.map weight).sum ≤ ((l.filter p).map weight).sum) :
    l.filter p = l := by
  have hle : ∀ l : List α, ((l.filter p).map weight).sum ≤ (l.map weight).sum := by
    intro l
    induction l with
    | nil => exact Nat.le_refl 0
    | cons a l ih =>
      rw [List.filter_cons]
      split
      · rw [List.map_cons, List.map_cons, List.sum_cons, List.sum_cons]
        omega
      · rw [List.map_cons, List.sum_cons]
        omega
  induction l with
  | nil => rfl
  | cons a l ih =>
    have ha := hpos a
    rw [List.filter_cons] at h ⊢
    split at h
    · rename_i hp
      rw [if_pos hp]
      rw [List.map_cons, List.map_cons, List.sum_cons, List.sum_cons] at h
      rw [ih (by omega)]
    · rw [List.map_cons, List.sum_cons] at h
      have := hle l
      omega

/-- The types module tells whether a class is missing. -/
theorem typesModuleText_filter_eq_iff (p : Definition → Bool) (f : Definition → String)
    (ds : List Definition) :
    typesModuleText s ((ds.filter p).map f) = typesModuleText s (ds.map f) ↔
      ds.filter p = ds := by
  constructor
  · intro h
    have hlength := congrArg String.length h
    rw [length_typesModuleText, length_typesModuleText, List.map_map, List.map_map] at hlength
    exact filter_eq_self_of_sum (fun d => Nat.succ_pos _)
      (Nat.le_of_add_le_add_left (Nat.le_of_eq hlength.symm))
  · intro h
    rw [h]

/-- No class is lost exactly if none of those asked for is passed over. -/
theorem filter_isEmitted_eq_iff (ds : List Definition) :
    (classesOf ds).filter (isEmitted ds) = classesOf ds ↔ NoneLost ds := by
  rw [List.filter_eq_self]
  unfold classesOf
  constructor
  · intro h u hu hclass
    have hemitted := h (.union u) (List.mem_filter.2 ⟨hu, hclass⟩)
    simpa [isEmitted, Definition.union?] using hemitted
  · intro h d hd
    obtain ⟨hmem, hasks⟩ := List.mem_filter.1 hd
    cases d with
    | record r => rfl
    | operation o => rfl
    | union u => simpa [isEmitted, Definition.union?] using h u hmem hasks

theorem types_ofDefinitions (ds : List Definition) :
    (Sources.ofDefinitions s ds).types = typesModuleText s
      (((classesOf ds).filter (isEmitted ds)).map (definitionCode s (namesOf s ds))) :=
  congrArg (typesModuleText s) (filterMap_typeBlock? s ds)

theorem operations_ofDefinitions (ds : List Definition) :
    (Sources.ofDefinitions s ds).operations = operationsModuleText s
      ((operationsOf ds).map fun d => Text.indent 1 (definitionCode s (namesOf s ds) d)) :=
  congrArg (operationsModuleText s) (filterMap_operationBlock? s (namesOf s ds) ds)

/-- **What the modules hold.** The types module holds, in their order, the classes of the
definitions that ask for one and are not passed over, the operations module the functions of all
operations, and there is one warning for each union that is passed over. The types module is the one
with all classes asked for, and only the unions without a class are passed over, exactly if no union
that asks for a class has the name of one without. -/
theorem types_eq_iff_noneLost (ds : List Definition) :
    (Sources.ofDefinitions s ds).types = typesModuleText s
      (((classesOf ds).filter (isEmitted ds)).map (definitionCode s (namesOf s ds))) ∧
    (Sources.ofDefinitions s ds).operations = operationsModuleText s
      ((operationsOf ds).map fun d => Text.indent 1 (definitionCode s (namesOf s ds) d)) ∧
    (Sources.ofDefinitions s ds).warnings = (passedOver ds).map (warningText ds) ∧
    ((Sources.ofDefinitions s ds).types =
        typesModuleText s ((classesOf ds).map (definitionCode s (namesOf s ds))) ↔
      NoneLost ds) ∧
    (passedOver ds = classless ds ↔ NoneLost ds) := by
  refine ⟨types_ofDefinitions s ds, operations_ofDefinitions s ds, filterMap_warning? s ds, ?_,
    passedOver_eq_iff ds⟩
  rw [types_ofDefinitions, typesModuleText_filter_eq_iff, filter_isEmitted_eq_iff]

end Blocks

/-- Two unions of one name, the second with one case. -/
def replyTwice : List Definition := [
  .union { name := "Reply", cases := ["Message", "Failure"] },
  .union { name := "Reply", cases := ["Message"] }]

/-- The first of two unions is lost by the name of the second: each alone is treated as it
should be. -/
theorem types_eq_iff_noneLost_replyTwice :
    (Sources.ofDefinitions Settings.plain replyTwice).types ≠ typesModuleText Settings.plain
        ((classesOf replyTwice).map
          (definitionCode Settings.plain (namesOf Settings.plain replyTwice))) ∧
      passedOver replyTwice ≠ classless replyTwice ∧
      (Sources.ofDefinitions Settings.plain (replyTwice.take 1)).types =
        typesModuleText Settings.plain ((classesOf (replyTwice.take 1)).map
          (definitionCode Settings.plain (namesOf Settings.plain (replyTwice.take 1)))) := by
  have hlost : ¬ NoneLost replyTwice := by
    intro h
    exact h { name := "Reply", cases := ["Message", "Failure"] } (by decide) (by decide)
      (by decide)
  have hkept : NoneLost (replyTwice.take 1) := by
    intro u hu _
    exact List.not_mem_nil
  obtain ⟨-, -, -, htypes, hpassed⟩ := types_eq_iff_noneLost Settings.plain replyTwice
  obtain ⟨-, -, -, htypes', -⟩ := types_eq_iff_noneLost Settings.plain (replyTwice.take 1)
  exact ⟨mt htypes.1 hlost, mt hpassed.1 hlost, htypes'.2 hkept⟩

end Bindings

end ApiBindings
