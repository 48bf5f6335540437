import ApiBindings.Proofs.Bindings.Emission
import ApiBindings.Proofs.Text.Indentation
/-!
# Functions inside of their class

The operations module puts the functions below its header, one level deep. Each stays in one piece:
only the spaces of its level stand in front of its lines. Main statement: behind the header each
line that is not empty begins with four spaces, and without them the functions stand there one below
the other, as they were made (`outdented_of_operations`).
-/

namespace ApiBindings.Bindings

open Text

/-- Indented functions below the header are the indented text of all functions. -/
theorem operationsModuleText_eq (s : Settings) {codes : List String} (h : codes ≠ []) :
    operationsModuleText s (codes.map (indent 1)) =
      expandTabs (operationsHeader s.namespaceName s.typesModule) ++
        expandTabs (indent 1 (stacked codes)) := by
  have hblocks : (codes.map (indent 1)).isEmpty = false := by simpa using h
  have hbody : indent 1 (stacked codes) = stacked (codes.map (indent 1)) :=
    mapLines_stacked rfl codes
  rw [hbody, ← expandTabs_append, operationsModuleText, hblocks, if_neg (by decide)]
  rfl

/-- The header of an operations module ends its last line. -/
theorem exists_expandTabs_operationsHeader (namespaceName typesModule : String) :
    ∃ front, expandTabs (operationsHeader namespaceName typesModule) = front ++ "\n" :=
  ⟨_, expandTabs_append _ "\n"⟩

/-- **Functions keep their text inside of their class.** In an operations module with at least one
function each line behind the header is empty or begins with the spaces of one level, and without
these the functions stand there in their order, each behind a line feed and with its tabs expanded.
Levels of indentation add up, and without a level above zero a text stays where it is. -/
theorem outdented_of_operations (s : Settings) :
    (∀ ds : List Definition, (∃ o, .operation o ∈ ds) → ∃ body,
      (Sources.ofDefinitions s ds).operations =
        expandTabs (operationsHeader s.namespaceName s.typesModule) ++ body ∧
      (∀ l ∈ lines body, l ≠ "" → levelSpaces.toList <+: l.toList) ∧
      outdented body = stacked
        ((operationsOf ds).map fun d => expandTabs (definitionCode s (namesOf s ds) d))) ∧
    (∃ front, expandTabs (operationsHeader s.namespaceName s.typesModule) = front ++ "\n") ∧
    (∀ code m n, 0 ≤ m → 0 ≤ n → indent n (indent m code) = indent (m + n) code) ∧
    ∀ code n, n ≤ 0 → indent n code = code := by
  refine ⟨?_, exists_expandTabs_operationsHeader _ _, ?_, ?_⟩
  · rintro ds ⟨o, ho⟩
    have hmem : .operation o ∈ operationsOf ds := List.mem_filter.2 ⟨ho, rfl⟩
    have hcodes : (operationsOf ds).map (definitionCode s (namesOf s ds)) ≠ [] :=
      List.ne_nil_of_mem (List.mem_map_of_mem hmem)
    refine ⟨expandTabs (indent 1 (stacked ((operationsOf ds).map
      (definitionCode s (namesOf s ds))))), ?_, ?_, ?_⟩
    · rw [operations_ofDefinitions, ← operationsModuleText_eq s hcodes, List.map_map]
      rfl
    · intro l hl hne
      exact isPrefix_of_mem_lines_expandTabs hl hne
    · rw [outdented_expandTabs_indent, expandTabs_stacked, List.map_map]
      rfl
  · intro code m n hm hn
    exact indent_indent hm hn code
  · intro code n hn
    exact indent_of_nonpos hn code

/-- A record between two operations, one of which has a parameter. -/
def getFile : List Definition := [
  .operation { title := "getMe" },
  .record { title := "File" },
  .operation {
    title := "getFile"
    fields := [{ name := some "file_id", type := some (.scalar "String") }] }]

/-- The two functions stand one below the other, and two levels behind one are three. -/
theorem outdented_of_operations_getFile :
    (∃ o, .operation o ∈ getFile) ∧ (operationsOf getFile).length = 2 ∧
    (∃ body, (Sources.ofDefinitions {} getFile).operations =
        expandTabs (operationsHeader "TelegramAPI" "models") ++ body ∧
      (∀ l ∈ lines body, l ≠ "" → levelSpaces.toList <+: l.toList) ∧
      outdented body = stacked ((operationsOf getFile).map fun d =>
        expandTabs (definitionCode {} (namesOf {} getFile) d))) ∧
    indent 2 (indent 1 "a\n\nb") = "\t\t\ta\n\n\t\t\tb" ∧ indent (-1) "a\n" = "a\n" := by
  have hmem : ∃ o, .operation o ∈ getFile := ⟨{ title := "getMe" }, List.mem_cons_self⟩
  obtain ⟨hbody, -, hlevels, hnone⟩ := outdented_of_operations {}
  refine ⟨hmem, rfl, hbody getFile hmem, ?_, hnone _ _ (by decide)⟩
  rw [hlevels _ 1 2 (by decide) (by decide)]
  decide +kernel

end ApiBindings.Bindings
