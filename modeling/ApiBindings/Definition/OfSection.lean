import ApiBindings.Definition.Basic
import ApiBindings.Log.Record
import ApiBindings.Text.Quoted
/-!
# What a section defines

A section with cases defines a union. Without cases the first letter of the title decides: a
capital makes a record, a small letter an operation, and anything else nothing. Rows that are not
complete are left out.
-/

namespace ApiBindings

open Reference (Field Section)

/-- A union that no section of the page defines. -/
structure SyntheticUnion where
  name : String
  cases : List String
  deriving DecidableEq, Repr

/-- The union, with a note that lists its cases. -/
def SyntheticUnion.toUnion (u : SyntheticUnion) : Union :=
  { name := u.name, note := some (u.name ++ ": " ++ String.intercalate " or " u.cases),
    cases := u.cases }

/-- The definition that a section gives, if it gives one. -/
def Definition.ofSection? (s : Section) : Option Definition :=
  match s.title with
  | none => none
  | some title =>
    match title.toList, s.cases with
    | [], _ => none
    | _ :: _, some (case :: cases) => some (.union ⟨title, s.note, case :: cases⟩)
    | first :: _, _ =>
      let fields := s.fields.filter (·.isComplete)
      if Text.isUpper first then some (.record ⟨title, s.note, fields⟩)
      else if Text.isLower first then some (.operation ⟨title, s.note, fields⟩)
      else none

/-- What a section can define under its title: with cases a union of them, and without, by the first
letter of the title, a record or an operation with the complete fields. -/
theorem Definition.ofSection?_cases {s : Section} {d : Definition}
    (h : Definition.ofSection? s = some d) :
    ∃ title first rest, s.title = some title ∧ title.toList = first :: rest ∧
      ((∃ case cases, s.cases = some (case :: cases) ∧
          d = .union ⟨title, s.note, case :: cases⟩) ∨
        (Text.isUpper first = true ∧
          d = .record ⟨title, s.note, s.fields.filter (·.isComplete)⟩) ∨
        (Text.isLower first = true ∧
          d = .operation ⟨title, s.note, s.fields.filter (·.isComplete)⟩)) := by
  unfold Definition.ofSection? at h
  split at h
  · exact absurd h (by simp)
  · rename_i title htitle
    split at h
    · exact absurd h (by simp)
    · rename_i first rest case cases hlist hcases
      exact ⟨title, first, rest, htitle, hlist, Or.inl ⟨case, cases, hcases, by simpa using h.symm⟩⟩
    · rename_i first rest hlist _
      refine ⟨title, first, rest, htitle, hlist, Or.inr ?_⟩
      dsimp only at h
      split at h
      · rename_i hupper
        exact Or.inl ⟨hupper, by simpa using h.symm⟩
      · split at h
        · rename_i hlower
          exact Or.inr ⟨hlower, by simpa using h.symm⟩
        · exact absurd h (by simp)

/-- A definition that is no union keeps the complete fields of its section. -/
theorem fields_of_ofSection? {s : Section} {d : Definition} (h : Definition.ofSection? s = some d) :
    d.fields = match d with
      | .union _ => []
      | _ => s.fields.filter (·.isComplete) := by
  obtain ⟨title, first, rest, -, -, ⟨case, cases, -, rfl⟩ | ⟨-, rfl⟩ | ⟨-, rfl⟩⟩ :=
    Definition.ofSection?_cases h
  · rfl
  · rfl
  · rfl

/-- A kept field is a complete field of the section. -/
theorem isComplete_of_mem_fields {s : Section} {d : Definition}
    (h : Definition.ofSection? s = some d) {f : Field} (hf : f ∈ d.fields) :
    f ∈ s.fields ∧ f.isComplete = true := by
  rw [fields_of_ofSection? h] at hf
  cases d with
  | union u => exact absurd hf (by simp)
  | record r => exact List.mem_filter.1 hf
  | operation o => exact List.mem_filter.1 hf

/-- The synthetic unions, then what the sections define, in their order. -/
def Definition.ofPage (unions : List SyntheticUnion) (sections : List Section) :
    List Definition :=
  unions.map (.union ·.toUnion) ++ sections.filterMap Definition.ofSection?

/-! ## What is logged -/

/-- The records about a section. -/
def Definition.reportSection (s : Section) : List Log.Record :=
  match s.title with
  | none => []
  | some title =>
    match title.toList, s.cases with
    | [], _ => []
    | _ :: _, some (_ :: _) => []
    | first :: _, _ =>
      let dropped := s.fields.countP (!·.isComplete)
      if !(Text.isUpper first || Text.isLower first) then
        [Log.Part.definitions.record Log.debug
          ("Dropping section with unclassifiable title: " ++ Text.quoted title)]
      else if dropped = 0 then []
      else
        [Log.Part.definitions.record Log.debug
          (title ++ ": dropped " ++ toString dropped ++ " incomplete rows")]

/-- How often each kind occurs, in the order of first occurrence. -/
def Definition.counts (ds : List Definition) : List (String × Nat) :=
  let kinds := ds.map (·.kind)
  (kinds.reverse.foldl (fun seen k => k :: seen.filter (· != k)) []).map fun k =>
    (k, kinds.count k)

/-- The records about a page. -/
def Definition.reportPage (unions : List SyntheticUnion) (sections : List Section) :
    List Log.Record :=
  let ds := Definition.ofPage unions sections
  let counts := (Definition.counts ds).map fun (kind, n) =>
    Text.quoted kind ++ ": " ++ toString n
  sections.flatMap Definition.reportSection ++
    [Log.Part.definitions.record Log.info
      ("Classified " ++ toString ds.length ++ " entities: \x7b" ++
        String.intercalate ", " counts ++ "\x7d")]

end ApiBindings
