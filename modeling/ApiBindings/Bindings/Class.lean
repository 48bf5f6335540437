import ApiBindings.Bindings.Docstring
import ApiBindings.Bindings.Prelude
import ApiBindings.Bindings.TypeText
import ApiBindings.Naming.Variant
import ApiBindings.Text.Quoted
/-!
# Generated code of one definition

A record becomes a model with its wire names, a union a class that decodes by the first case that
fits and encodes by tag, an operation a function that builds a request. Code is indented by tabs
and starts at the left margin.
-/

namespace ApiBindings.Bindings

open Reference (Field)

/-- Text between triple quotes. -/
def tripleQuoted (text : String) : String := "\"\"\"" ++ text ++ "\"\"\""

/-! ## Unions -/

/-- Names that a variant would take away from its class. -/
def reservedNames : List String := ["tag", "value", "decode", "encode", "TAGS"]

/-- A reserved label gets an underscore at its end. -/
def escapeReserved (label : String) : String :=
  if reservedNames.contains label then label ++ "_" else label

/-- The labels under which a union knows its cases. -/
def tagsOf (u : Union) : List String := (Naming.variantLabels u.cases).map escapeReserved

/-- Texts in quotes as a tuple. -/
def quotedTuple : List String → String
  | [] => "()"
  | [t] => "(" ++ Text.quoted t ++ ",)"
  | ts => "(" ++ String.intercalate ", " (ts.map Text.quoted) ++ ")"

/-- The tags of a union with the written types of their cases. -/
def variantsOf (n : Names) (u : Union) : List (String × String) :=
  (tagsOf u).zip (u.cases.map n.scalar)

/-- The row of the decode table that pairs a tag with its type. -/
def decodeRow (variant : String × String) : String :=
  "\t\t\t(\"" ++ variant.1 ++ "\", " ++ variant.2 ++ "),"

/-- The branch of the encoder that a tag takes. -/
def encodeBranch (variant : String × String) : List String :=
  ["\t\tif self.tag == \"" ++ variant.1 ++ "\":",
    "\t\t\treturn dump_as(" ++ variant.2 ++ ", self.value)"]

/-- The constructor named after a tag. -/
def constructorLines (name : String) (variant : String × String) : List String :=
  ["",
    "\t@classmethod",
    "\tdef " ++ variant.1 ++ "(cls, " ++ variant.1 ++ ": " ++ variant.2 ++ ") -> " ++ name ++ ":",
    "\t\treturn cls(\"" ++ variant.1 ++ "\", " ++ variant.1 ++ ")"]

/-- The lines of a union's class, with one constructor per case if wanted. -/
def unionLines (n : Names) (fastInitialization : Bool) (u : Union) : List String :=
  ["class " ++ u.name ++ "(TaggedUnion):",
    "\t" ++ tripleQuoted (docstring u.note u.name),
    "",
    "\tTAGS = " ++ quotedTuple (tagsOf u),
    "",
    "\t@classmethod",
    "\tdef decode(cls, data: Any) -> " ++ u.name ++ ":",
    "\t\tfor tag, payload_type in ("]
  ++ (variantsOf n u).map decodeRow
  ++ ["\t\t):",
    "\t\t\ttry:",
    "\t\t\t\treturn cls(tag, validate_as(payload_type, data))",
    "\t\t\texcept ValidationError:",
    "\t\t\t\tcontinue",
    "\t\traise UnionDecodeError(\"" ++ u.name ++ "\", data)",
    "",
    "\tdef encode(self) -> Any:"]
  ++ (variantsOf n u).flatMap encodeBranch
  ++ ["\t\traise ValueError(\"" ++ u.name ++ " has no variant \" + repr(self.tag))"]
  ++ if fastInitialization then (variantsOf n u).flatMap (constructorLines u.name) else []

/-- The code of a union's class. -/
def unionCode (n : Names) (fastInitialization : Bool) (u : Union) : String :=
  codeText (unionLines n fastInitialization u)

/-! ## Fields -/

/-- The wire name of a field. A field without a name is not complete, and an error where code is
made of it: it is left out before, and this text only makes the function total. -/
def wireName (f : Field) : String := f.name.getD "None"

/-- The name of a field in the generated code. As for the wire name, a field without a name is an
error that does not come up, and its empty name only makes the function total. -/
def propertyName (f : Field) : String :=
  Naming.escapeKeyword (Naming.camelCase (f.name.getD ""))

/-- What is written behind the type of a field: a field that may be left out is `None` then. -/
def defaultText (f : Field) : String := if f.isOptional then " = None" else ""

/-! ## Records -/

/-- The base class of a record that has none of its own. -/
def defaultBase : String := "BaseModel"

/-- The lines that open the class of a record. -/
def recordHead (bases : List (String × String)) (r : Record) : List String :=
  ["class " ++ r.title ++ "(" ++ (bases.lookup r.title).getD defaultBase ++ "):",
    "\t" ++ tripleQuoted (docstring r.note r.title),
    ""]

/-- The entry of the key map that sends a property to its wire name. -/
def keyLine (f : Field) : String := "\t\t\"" ++ propertyName f ++ "\": \"" ++ wireName f ++ "\","

/-- The declaration of a property, under its description. -/
def propertyLines (n : Names) (f : Field) : List String :=
  ["",
    Text.trimEnd ("\t#: " ++ docstring f.description ""),
    "\t" ++ propertyName f ++ ": " ++ n.fieldType f ++ defaultText f]

/-- The code of a record's class; a record without fields is a constant value. -/
def recordCode (n : Names) (bases : List (String × String)) (r : Record) : String :=
  codeText <| recordHead bases r ++
    if r.fields.isEmpty then ["\tmodel_config = ConfigDict(frozen=True)"]
      else
        ["\tmodel_config = wire_config(\x7b"]
        ++ r.fields.map keyLine
        ++ ["\t\x7d)"]
        ++ r.fields.flatMap (propertyLines n)

/-! ## Operations -/

/-- The line that says what an operation returns. -/
def returnsLine : String := ":returns: The new Request instance."

/-- The parameter of a field. -/
def parameterLine (n : Names) (f : Field) : String :=
  "\t" ++ propertyName f ++ ": " ++ n.fieldType f ++ defaultText f ++ ","

/-- The lines that declare the function of an operation; all parameters are given by name. -/
def signature (n : Names) (o : Operation) : List String :=
  let function := Naming.escapeKeyword o.title
  if o.fields.isEmpty then ["def " ++ function ++ "() -> Request:"]
  else
    ["def " ++ function ++ "(", "\t*,"] ++ o.fields.map (parameterLine n) ++ [") -> Request:"]

/-- The entry of the request body that sends a wire name to its parameter. -/
def bodyLine (f : Field) : String := "\t\t\"" ++ wireName f ++ "\": " ++ propertyName f ++ ","

/-- The lines of the function of an operation: its documentation and the request it returns. -/
def functionBody (o : Operation) : List String :=
  ["\t\"\"\"" ++ docstring o.note o.title, ""]
  ++ o.fields.map (fun f =>
    Text.trimEnd ("\t:param " ++ propertyName f ++ ": " ++ docstring f.description ""))
  ++ ["\t" ++ returnsLine, "\t\"\"\""]
  ++ if o.fields.isEmpty then ["\treturn Request(method=\"" ++ o.title ++ "\", body=\x7b\x7d)"]
    else
      ["\tparameters = \x7b"]
      ++ o.fields.map bodyLine
      ++ ["\t\x7d", "\treturn Request(method=\"" ++ o.title ++ "\", body=parameters)"]

/-- The code of an operation's function. -/
def operationCode (n : Names) (o : Operation) : String :=
  codeText (["@staticmethod"] ++ signature n o ++ functionBody o)

end ApiBindings.Bindings
