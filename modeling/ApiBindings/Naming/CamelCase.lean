import ApiBindings.Text.Casing
import ApiBindings.Text.Pieces
/-!
# Camel case

A wire name such as `chat_id` names a property `chatId`.
-/

namespace ApiBindings.Naming

/-- The parts of a wire name between its underscores; empty ones do not count. -/
def segments (name : List Char) : List (List Char) :=
  (Text.pieces (· == '_') name).filter (!·.isEmpty)

/-- The first segment in lower case, every later one capitalized. -/
def camelJoin : List (List Char) → List Char
  | [] => []
  | first :: rest => Text.lower first ++ rest.flatMap Text.capitalize

/-- The property name of a wire name. -/
def camelCase (name : String) : String := String.ofList (camelJoin (segments name.toList))

end ApiBindings.Naming
