import ApiBindings.Definition.OfSection
import ApiBindings.Proofs.Bindings.Tags
import ApiBindings.Proofs.Bindings.WireNames
import ApiBindings.Proofs.Naming.Identifier
import ApiBindings.Proofs.Text.Trimming
/-!
# Names in the code of a definition

What a definition keeps of the rows of its section are the complete ones, and the test of a row is
made on the camel case of its name, whereas the name itself is what is printed between quotes. Main
statement: each kept field has a property name that may be defined and a wire name that is read back
from where it is printed, and escaping keywords makes no two properties the same
(`names_of_ofSection?`).
-/

namespace ApiBindings

open Reference (Field Section)

namespace Bindings

open Text
open Naming (camelCase escapeKeyword isIdentifier isKeyword)

/-! ## Characters of wire names -/

/-- The property name of a complete field may be defined. -/
theorem isIdentifier_propertyName {f : Field} (h : f.isComplete = true) :
    isIdentifier (propertyName f) = true ∧ isKeyword (propertyName f) = false := by
  rw [propertyName_of_isComplete h, Naming.isIdentifier_escapeKeyword]
  exact ⟨(isIdentifier_of_isComplete h).2, Naming.isKeyword_escapeKeyword _⟩

/-- A wire name that passes the test holds nothing but letters of identifiers. -/
theorem forall_continue_wireName {f : Field} (h : f.isComplete = true) :
    ∀ c ∈ (wireName f).toList, isIdentifierContinue c = true :=
  Naming.forall_continue_of_camelCase (isIdentifier_of_isComplete h).2

/-- The characters that break a line: line feed, carriage return, the vertical tab, the form feed,
three of the information separators, and those of Unicode. -/
def lineBreaks : List Char := [
  '\n', '\r', '\x0b', '\x0c', '\x1c', '\x1d', '\x1e', '\u0085', '\u2028', '\u2029']

/-- The characters that would end a quoted text, or stand in it for something else. -/
def literalBreaks : List Char := '"' :: '\\' :: lineBreaks

/-- No wire name that passes the test holds such a character. -/
theorem literalBreak_not_mem {f : Field} (h : f.isComplete = true) :
    ∀ c ∈ literalBreaks, c ∉ (wireName f).toList := by
  have hbreaks : (literalBreaks.all fun c => !isIdentifierContinue c) = true := by decide +kernel
  exact Naming.not_mem_of_forall_continue hbreaks (forall_continue_wireName h)

/-! ## The request body -/

/-- The wire name and the parameter that a line of a request body pairs. -/
def readArgument (line : String) : Option (String × String) := do
  let (name, s) ← readQuoted (← between "\t\t" "," line)
  let parameter ← dropStart? [':', ' '] s
  some (name, String.ofList parameter)

/-- A line of a request body is read back. -/
theorem readArgument_bodyLine {f : Field} (h : f.isComplete = true) :
    readArgument (bodyLine f) = some (wireName f, propertyName f) := by
  have hline : bodyLine f
      = "\t\t" ++ ("\"" ++ wireName f ++ "\": " ++ propertyName f) ++ "," := by
    rw [← String.toList_inj]
    simp [bodyLine]
  have hmiddle : ("\"" ++ wireName f ++ "\": " ++ propertyName f).toList
      = '"' :: ((wireName f).toList ++ '"' :: ([':', ' '] ++ (propertyName f).toList)) := by
    simp
  unfold readArgument
  rw [hline, between_append, hmiddle]
  simp only [bind, Option.bind_some]
  rw [readQuoted_quoted (all_isPlain_of_isComplete h).2]
  simp only [Option.bind_some]
  rw [dropStart?_eq_some_iff.2 rfl]
  simp

/-- A line that describes a parameter is no line of the body. -/
theorem readArgument_param (f : Field) :
    readArgument (trimEnd ("\t:param " ++ propertyName f ++ ": " ++ docstring f.description ""))
      = none := by
  have hline : ∃ rest, (trimEnd ("\t:param " ++ propertyName f ++ ": " ++
      docstring f.description "")).toList = '\t' :: ':' :: rest := by
    refine ⟨trimmedEnd ("param ".toList ++ (propertyName f).toList ++ ": ".toList ++
      (docstring f.description "").toList), ?_⟩
    have hcolon := trimmedEnd_of_not_isBlank ['\t'] ("param ".toList ++ (propertyName f).toList ++
      ": ".toList ++ (docstring f.description "").toList) (c := ':') (by decide)
    rw [trimEnd, String.toList_ofList]
    simpa using hcolon
  obtain ⟨rest, hrest⟩ := hline
  unfold readArgument between
  rw [hrest]
  simp [dropStart?]

/-- The body of a function pairs the wire names with the parameters, in their order. -/
theorem filterMap_readArgument_functionBody {o : Operation}
    (complete : ∀ f ∈ o.fields, f.isComplete = true) :
    (functionBody o).filterMap readArgument
      = o.fields.map fun f => (wireName f, propertyName f) := by
  have hparams : (o.fields.map fun f => trimEnd ("\t:param " ++ propertyName f ++ ": " ++
      docstring f.description "")).filterMap readArgument = [] := by
    simp [readArgument_param]
  have hbody : (o.fields.map bodyLine).filterMap readArgument
      = o.fields.map fun f => (wireName f, propertyName f) := by
    rw [List.filterMap_map, ← List.filterMap_eq_map]
    apply List.filterMap_congr
    intro f hf
    exact readArgument_bodyLine (complete f hf)
  unfold functionBody
  simp only [List.filterMap_append, hparams]
  by_cases hempty : o.fields = []
  · simp [hempty, readArgument, between, dropStart?, returnsLine]
  · have hfields : o.fields.isEmpty = false := by simpa using hempty
    simp only [hfields, Bool.false_eq_true, ↓reduceIte, List.filterMap_append, hbody]
    simp [readArgument, between, dropStart?, returnsLine]

/-! ## The names of a definition -/

/-- **The names of the fields that a definition keeps.** A definition that is no union keeps the
complete fields of its section. For each of them the property name is an identifier and no keyword,
and the wire name holds nothing but letters of identifiers, so no quote, no backslash and no line
break. Two fields share a property only if their wire names share a camel case. The key map of a
record and the request body of an operation, read from where they are printed, hold the wire names
as they are. -/
theorem names_of_ofSection? {s : Section} {d : Definition} (h : Definition.ofSection? s = some d) :
    (d.fields = match d with
      | .union _ => []
      | _ => s.fields.filter (·.isComplete)) ∧
    (∀ f ∈ d.fields, f.name = some (wireName f) ∧
      propertyName f = escapeKeyword (camelCase (wireName f)) ∧
      isIdentifier (propertyName f) = true ∧ isKeyword (propertyName f) = false ∧
      (∀ c ∈ (wireName f).toList, isIdentifierContinue c = true) ∧
      ∀ c ∈ literalBreaks, c ∉ (wireName f).toList) ∧
    (∀ f ∈ d.fields, ∀ g ∈ d.fields,
      propertyName f = propertyName g ↔ camelCase (wireName f) = camelCase (wireName g)) ∧
    (∀ r, d = .record r → r.fields ≠ [] → ∀ (n : Names) (bases : List (String × String)),
      ∃ display rest,
        recordCode n bases r
          = codeText (recordHead bases r) ++ "\tmodel_config = wire_config(" ++ display ∧
        readDisplay display.toList
          = some (r.fields.map fun f => (propertyName f, wireName f), rest)) ∧
    ∀ o, d = .operation o → ∀ n : Names,
      operationCode n o = codeText (["@staticmethod"] ++ signature n o ++ functionBody o) ∧
      (functionBody o).filterMap readArgument
        = o.fields.map fun f => (wireName f, propertyName f) := by
  have complete : ∀ f ∈ d.fields, f.isComplete = true := fun f hf =>
    (isComplete_of_mem_fields h hf).2
  refine ⟨fields_of_ofSection? h, ?_, ?_, ?_, ?_⟩
  · intro f hf
    have hf := complete f hf
    obtain ⟨hidentifier, hkeyword⟩ := isIdentifier_propertyName hf
    exact ⟨(isIdentifier_of_isComplete hf).1, propertyName_of_isComplete hf, hidentifier, hkeyword,
      forall_continue_wireName hf, literalBreak_not_mem hf⟩
  · intro f hf g hg
    exact propertyName_eq_iff (complete f hf) (complete g hg)
  · rintro r rfl hne n bases
    exact readDisplay_recordCode n bases complete hne
  · rintro o rfl n
    exact ⟨rfl, filterMap_readArgument_functionBody complete⟩

/-- A section with a keyword, a name of two words and one that no property can have. -/
def forwardSection : Section :=
  { title := some "forwardMessage"
    fields := [
      { name := some "from", type := some (.scalar "Int") },
      { name := some "chat_id", type := some (.scalar "Int") },
      { name := some "no\"te", type := some (.scalar "String") }] }

/-- The request body of the section holds its two usable wire names. -/
theorem names_of_ofSection?_forwardSection :
    ∃ o, Definition.ofSection? forwardSection = some (.operation o) ∧
      o.fields = forwardSection.fields.filter (·.isComplete) ∧
      (functionBody o).filterMap readArgument = [("from", "from_"), ("chat_id", "chatId")] := by
  have h : Definition.ofSection? forwardSection
      = some (.operation ⟨"forwardMessage", none,
        forwardSection.fields.filter (·.isComplete)⟩) := by decide +kernel
  have hnames := names_of_ofSection? h
  refine ⟨_, h, hnames.1, ?_⟩
  rw [(hnames.2.2.2.2 _ rfl { substitutions := [], scalars := [] }).2]
  decide +kernel

end Bindings

end ApiBindings
