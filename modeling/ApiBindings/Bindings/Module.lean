import ApiBindings.Bindings.Class
import ApiBindings.Bindings.Prelude
import ApiBindings.Settings
/-!
# Generated modules

The code of all definitions put together: records and unions go into the types module, operations
one level deep into the class of the operations module. In the modules each tab is four spaces.
-/

namespace ApiBindings

open Bindings

/-- The two modules, the number of definitions in them, and what is worth a warning. -/
structure Sources where
  types : String
  operations : String
  count : Nat
  warnings : List String
  deriving DecidableEq, Repr

namespace Bindings

/-! ## Modules -/

/-- The types module with the given classes. -/
def typesModuleText (s : Settings) (blocks : List String) : String :=
  Text.expandTabs
    (typesHeader s.namespaceName ++ prelude ++ String.join (blocks.map ("\n\n" ++ ·)))

/-- The operations module with the given functions. -/
def operationsModuleText (s : Settings) (blocks : List String) : String :=
  Text.expandTabs
    (operationsHeader s.namespaceName s.typesModule ++
      if blocks.isEmpty then "\n\tpass\n" else String.join (blocks.map ("\n" ++ ·)))

/-! ## Definitions -/

/-- The names under given substitutions. -/
def namesFor (s : Settings) (substitutions : List (String × String)) : Names :=
  { substitutions, scalars := s.scalars }

/-- The code of a definition at the left margin. -/
def definitionCode (s : Settings) (n : Names) : Definition → String
  | .record r => recordCode n s.bases r
  | .union u => unionCode n s.fastInitialization u
  | .operation o => operationCode n o

/-- The code of a definition at the left margin, where none of its types is too deep to be
written. -/
def writeCode (s : Settings) (n : Names) (d : Definition) : Except Error String :=
  (d.fields.mapM (n.writeFieldType s.room.writing)).map fun _ => definitionCode s n d

/-- The class of a definition; an operation has none, nor has a union whose name has a
substitution. -/
def typeBlock? (s : Settings) (n : Names) : Definition → Option String
  | .record r => some (recordCode n s.bases r)
  | .union u =>
    if (n.substitutions.lookup u.name).isSome then none
    else some (unionCode n s.fastInitialization u)
  | .operation _ => none

/-- The indented function of an operation. -/
def operationBlock? (n : Names) : Definition → Option String
  | .operation o => some (Text.indent 1 (operationCode n o))
  | _ => none

/-- The warning about a union whose name has a substitution. -/
def warning? (n : Names) : Definition → Option String
  | .union u =>
    (n.substitutions.lookup u.name).map fun target =>
      "Union " ++ u.name ++ " has " ++ toString u.cases.length ++ " case(s); using " ++ target ++
        " in its place"
  | _ => none

end Bindings

/-- The modules for a list of definitions, whatever the depth of their types. -/
def Sources.ofDefinitions (s : Settings) (ds : List Definition) : Sources :=
  let n := namesFor s (substitutionsFor ds)
  let types := ds.filterMap (typeBlock? s n)
  let operations := ds.filterMap (operationBlock? n)
  { types := typesModuleText s types
    operations := operationsModuleText s operations
    count := types.length + operations.length
    warnings := ds.filterMap (warning? n) }

/-- The modules that are written for a list of definitions, one definition after the other. -/
def Sources.write (s : Settings) (ds : List Definition) : Except Error Sources :=
  (ds.mapM (writeCode s (namesFor s (substitutionsFor ds)))).map fun _ =>
    Sources.ofDefinitions s ds

/-- The records about a list of definitions: the warnings up to the definition that cannot be
written, and if there is none the number of those that are. -/
def Sources.report (s : Settings) (ds : List Definition) : List Log.Record :=
  let n := namesFor s (substitutionsFor ds)
  let written := ds.takeWhile fun d => (writeCode s n d).toBool
  (written.filterMap (warning? n)).map (Log.Part.bindings.record Log.debug) ++
    if written.length = ds.length then
      [Log.Part.bindings.record Log.info
        ("Synthesized " ++ toString (ds.filterMap (typeBlock? s n)).length ++ " types and " ++
          toString (ds.filterMap (operationBlock? n)).length ++ " operations")]
    else []

end ApiBindings
