import ApiBindings.Proofs.Bindings.Depth
import ApiBindings.Proofs.Bindings.StandIns
import Mathlib.Data.List.TakeWhile
/-!
# Writing with registers

The same writing by a writer that is kept from one call to the next. What stands for a union without
a class, and the warnings, are registers: a list of definitions clears them and fills them anew one
definition after the other, up to one that cannot be written, while a name, a type or a single
definition is written under whatever the registers hold. Main statements: from any registers a list
of definitions gives the modules that are stated for it alone, or the error, and leaves what only
depends on it (`modules_eq`), so after any calls the registers are those of the last list
(`answers_registers`).
-/

namespace ApiBindings.Bindings

open Reference (Field)

/-! ## Registers -/

/-- What a writer keeps. -/
structure Registers where
  substitutions : List (String × String)
  warnings : List String
  deriving DecidableEq, Repr

namespace Registers

/-- Nothing is kept. -/
def start : Registers := ⟨[], []⟩

/-- The names that are written under what is kept. -/
def names (s : Settings) (r : Registers) : Names := namesFor s r.substitutions

/-- What stands for a union without a class is kept, and what stood for its name is lost. -/
def note (r : Registers) : Definition → Registers
  | .union u =>
    if hasClass u then r
    else { r with substitutions := (u.name, standIn u) :: r.substitutions.filter (·.1 != u.name) }
  | _ => r

/-- The substitutions are cleared, then those of the definitions are kept. -/
def collect (ds : List Definition) (r : Registers) : Registers :=
  ds.foldl note { r with substitutions := [] }

/-- One more warning. -/
def warn (message : String) (r : Registers) : Registers :=
  { r with warnings := r.warnings ++ [message] }

end Registers

/-! ## Putting the modules together -/

/-- The registers beside the classes and the functions that have been written. -/
structure Assembly where
  registers : Registers
  types : List String
  operations : List String
  deriving DecidableEq, Repr

/-- One more definition: a class, a function, or a warning about a name that is known. Where its
code cannot be written all is left as it is. -/
def Assembly.add (s : Settings) (a : Assembly) (d : Definition) : Assembly × Option Error :=
  let n := a.registers.names s
  let code := writeCode s n d
  match d with
  | .record _ => receive a code fun code => { a with types := a.types ++ [code] }
  | .union u =>
    match warning? n (.union u) with
    | some message => ({ a with registers := a.registers.warn message }, none)
    | none => receive a code fun code => { a with types := a.types ++ [code] }
  | .operation _ =>
    receive a code fun code => { a with operations := a.operations ++ [Text.indent 1 code] }

/-- One definition after the other, up to one that cannot be written. -/
def Assembly.addAll (s : Settings) : Assembly → List Definition → Assembly × Option Error
  | a, [] => (a, none)
  | a, d :: ds =>
    match a.add s d with
    | (a, none) => a.addAll s ds
    | (a, some e) => (a, some e)

/-- The modules of what has been written, with the warnings that are kept. -/
def Assembly.sources (s : Settings) (a : Assembly) : Sources where
  types := typesModuleText s a.types
  operations := operationsModuleText s a.operations
  count := a.types.length + a.operations.length
  warnings := a.registers.warnings

/-- The modules for a list of definitions, if all of them can be written, and the registers behind
it. -/
def Registers.modules (s : Settings) (ds : List Definition) (r : Registers) :
    Registers × Except Error Sources :=
  let cleared := { r with warnings := [] }
  match Assembly.addAll s ⟨cleared.collect ds, [], []⟩ ds with
  | (a, none) => (a.registers, .ok (a.sources s))
  | (a, some e) => (a.registers, .error e)

/-! ## Calls -/

/-- What a writer can be asked for. -/
inductive Call where
  | scalar (name : String)
  | type (t : TypeExpr)
  | fieldType (f : Field)
  | code (d : Definition)
  | typesModule (blocks : List String)
  | operationsModule (blocks : List String)
  | modules (ds : List Definition)
  deriving DecidableEq, Repr

/-- What a writer answers. -/
inductive Reply where
  | text (t : String)
  | sources (s : Sources)
  | failure (e : Error)
  deriving DecidableEq, Repr

/-- The answer with a text, unless it could not be written. -/
def Reply.ofText : Except Error String → Reply
  | .ok t => .text t
  | .error e => .failure e

/-- The answer with modules, unless they could not be written. -/
def Reply.ofSources : Except Error Sources → Reply
  | .ok s => .sources s
  | .error e => .failure e

/-- The definitions that a call puts into modules. -/
def Call.definitions? : Call → Option (List Definition)
  | .modules ds => some ds
  | _ => none

/-- The registers after a call, and its answer. -/
def Registers.answer (s : Settings) (r : Registers) : Call → Registers × Reply
  | .scalar name => (r, .text ((r.names s).scalar name))
  | .type t => (r, .ofText ((r.names s).writeType s.room.writing t))
  | .fieldType f => (r, .ofText ((r.names s).writeFieldType s.room.writing f))
  | .code d => (r, .ofText (writeCode s (r.names s) d))
  | .typesModule blocks => (r, .text (typesModuleText s blocks))
  | .operationsModule blocks => (r, .text (operationsModuleText s blocks))
  | .modules ds => ((r.modules s ds).1, .ofSources (r.modules s ds).2)

/-- The registers after several calls, and their answers. -/
def Registers.answers (s : Settings) : Registers → List Call → Registers × List Reply
  | r, [] => (r, [])
  | r, call :: calls =>
    let (r, reply) := r.answer s call
    let (r, replies) := r.answers s calls
    (r, reply :: replies)

/-! ## What a list of definitions leaves -/

/-- The definitions in front of the first one that cannot be written. -/
def written (s : Settings) (ds : List Definition) : List Definition :=
  ds.takeWhile fun d => d.Fits s.room.writing

/-- The registers that a list of definitions leaves. -/
def Registers.ofDefinitions (s : Settings) (ds : List Definition) : Registers where
  substitutions := substitutionsFor ds
  warnings := (written s ds).filterMap (warning? (namesFor s (substitutionsFor ds)))

/-- The substitutions are collected one by one, and the warnings are not touched. -/
theorem collect_eq (ds : List Definition) (r : Registers) :
    r.collect ds = ⟨substitutionsFor ds, r.warnings⟩ := by
  induction ds using List.reverseRecOn with
  | nil => rfl
  | append_singleton ds d ih =>
    have hnote : r.collect (ds ++ [d]) = (r.collect ds).note d := by
      rw [Registers.collect, List.foldl_append]
      rfl
    rw [hnote, ih, substitutionsFor_concat]
    cases d with
    | record rec => rfl
    | operation o => rfl
    | union u =>
      cases hclass : hasClass u <;> simp [Registers.note, Definition.classless?, hclass]

/-- The assembly behind some definitions, all of which are written under one set of names. -/
def Assembly.after (s : Settings) (n : Names) (ds : List Definition) (a : Assembly) : Assembly :=
  ⟨{ a.registers with warnings := a.registers.warnings ++ ds.filterMap (warning? n) },
    a.types ++ ds.filterMap (typeBlock? s n), a.operations ++ ds.filterMap (operationBlock? n)⟩

/-- One definition adds to each list what it gives there. -/
theorem after_singleton (s : Settings) (n : Names) (d : Definition) (a : Assembly) :
    a.after s n [d] =
      ⟨{ a.registers with warnings := a.registers.warnings ++ (warning? n d).toList },
        a.types ++ (typeBlock? s n d).toList, a.operations ++ (operationBlock? n d).toList⟩ := by
  unfold Assembly.after
  simp only [List.filterMap_cons, List.filterMap_nil]
  cases warning? n d <;> cases typeBlock? s n d <;> cases operationBlock? n d <;> rfl

/-- A definition is written under the names of the registers, in the one place where it belongs, or
it cannot be written. -/
theorem add_eq (s : Settings) (a : Assembly) (d : Definition) :
    a.add s d =
      if d.Fits s.room.writing then (a.after s (a.registers.names s) [d], none)
      else (a, some .deepNesting) := by
  unfold Assembly.add
  dsimp only
  rw [writeCode_eq, after_singleton]
  by_cases hfits : d.Fits s.room.writing
  · rw [if_pos hfits, if_pos hfits]
    cases d with
    | record r => simp [receive, warning?, typeBlock?, operationBlock?, definitionCode]
    | operation o => simp [receive, warning?, typeBlock?, operationBlock?, definitionCode]
    | union u =>
      cases hlookup : (a.registers.names s).substitutions.lookup u.name with
      | none => simp [receive, warning?, typeBlock?, operationBlock?, definitionCode, hlookup]
      | some target =>
        simp [Registers.warn, warning?, typeBlock?, operationBlock?, hlookup]
  · rw [if_neg hfits, if_neg hfits]
    cases d with
    | record r => rfl
    | operation o => rfl
    | union u => exact absurd (fun f hf => nomatch hf) hfits -- a union has no fields

/-- What is written of several definitions is written under the names that the registers began
with: a warning does not change them. -/
theorem addAll_eq (s : Settings) (ds : List Definition) (a : Assembly) :
    a.addAll s ds =
      (a.after s (a.registers.names s) (written s ds),
        if ∀ d ∈ ds, d.Fits s.room.writing then none else some .deepNesting) := by
  induction ds generalizing a with
  | nil => simp [Assembly.addAll, Assembly.after, written]
  | cons d ds ih =>
    rw [Assembly.addAll, add_eq]
    by_cases hd : d.Fits s.room.writing
    · have hwritten : written s (d :: ds) = d :: written s ds :=
        List.takeWhile_cons_of_pos (by simpa using hd)
      have hnames : (a.after s (a.registers.names s) [d]).registers.names s =
          a.registers.names s := rfl
      rw [if_pos hd]
      dsimp only
      rw [ih, hnames, hwritten]
      simp only [Assembly.after, List.append_assoc, List.filterMap_cons, List.filterMap_nil,
        List.forall_mem_cons, hd, true_and]
      cases warning? (a.registers.names s) d <;> cases typeBlock? s (a.registers.names s) d <;>
        cases operationBlock? (a.registers.names s) d <;> rfl
    · have hwritten : written s (d :: ds) = [] :=
        List.takeWhile_cons_of_neg (by simpa using hd)
      have hall : ¬ ∀ d' ∈ d :: ds, d'.Fits s.room.writing := fun h => hd (h d List.mem_cons_self)
      rw [if_neg hd, if_neg hall, hwritten]
      simp [Assembly.after]

/-- **The modules do not depend on what was kept**, nor do the registers behind them, also where a
definition cannot be written. -/
theorem modules_eq (s : Settings) (ds : List Definition) (r : Registers) :
    r.modules s ds = (.ofDefinitions s ds, Sources.write s ds) := by
  have hcollect : Registers.collect ds { r with warnings := [] } = ⟨substitutionsFor ds, []⟩ :=
    collect_eq ds _
  unfold Registers.modules
  dsimp only
  rw [hcollect, addAll_eq, Sources.write_eq]
  by_cases hall : ∀ d ∈ ds, d.Fits s.room.writing
  · have hwritten : written s ds = ds := List.takeWhile_eq_self_iff.2 (by simpa using hall)
    rw [if_pos hall, if_pos hall]
    simp [Registers.ofDefinitions, Sources.ofDefinitions, Assembly.sources, Assembly.after,
      Registers.names, hwritten]
  · rw [if_neg hall, if_neg hall]
    simp [Registers.ofDefinitions, Assembly.after, Registers.names]

/-! ## What calls leave -/

/-- A call leaves the registers as they are, unless it puts definitions into modules. -/
theorem answer_registers (s : Settings) (r : Registers) (call : Call) :
    (r.answer s call).1 = (call.definitions?.map (.ofDefinitions s)).getD r := by
  cases call with
  | modules ds => exact congrArg Prod.fst (modules_eq s ds r)
  | _ => rfl

/-- **After any calls the registers are those of the last list of definitions.** -/
theorem answers_registers (s : Settings) (r : Registers) (calls : List Call) :
    (r.answers s calls).1 =
      ((calls.filterMap Call.definitions?).getLast?.map (.ofDefinitions s)).getD r := by
  induction calls generalizing r with
  | nil => rfl
  | cons call calls ih =>
    show ((r.answer s call).1.answers s calls).1 = _
    rw [ih, answer_registers, List.filterMap_cons]
    cases call.definitions? with
    | none => rfl
    | some ds =>
      rw [List.getLast?_cons]
      cases (calls.filterMap Call.definitions?).getLast? <;> rfl

/-- So they are untouched where none of the calls puts definitions into modules. -/
theorem answers_registers_of_none {s : Settings} {calls : List Call}
    (h : ∀ call ∈ calls, call.definitions? = none) (r : Registers) :
    (r.answers s calls).1 = r := by
  have hnone : calls.filterMap Call.definitions? = [] := List.filterMap_eq_nil_iff.2 h
  rw [answers_registers, hnone]
  rfl

end ApiBindings.Bindings
