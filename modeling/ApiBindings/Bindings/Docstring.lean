import ApiBindings.Text.Pieces
/-!
# Documentation texts

Text that is safe between triple quotes on one line: words one space apart, backslashes and triple
quotes escaped, and no quote at the very end.
-/

namespace ApiBindings.Bindings

/-- Each backslash is doubled. -/
def escapeBackslashes (s : List Char) : List Char :=
  s.flatMap fun c => if c == '\\' then ['\\', '\\'] else [c]

/-- Each quote of a triple, found from the left, gets a backslash. -/
def escapeTriples : List Char → List Char
  | '"' :: '"' :: '"' :: rest => ['\\', '"', '\\', '"', '\\', '"'] ++ escapeTriples rest
  | c :: rest => c :: escapeTriples rest
  | [] => []

/-- The text, with a space behind a quote that it ends in. -/
def guardEnd (s : List Char) : List Char := if s.getLast? == some '"' then s ++ [' '] else s

/-- What is documented: the text, or the fallback where there is none. -/
def documented (text : Option String) (fallback : String) : String :=
  Text.squeeze (if (text.getD "").isEmpty then fallback else text.getD "")

/-- The documentation text between triple quotes. -/
def docstring (text : Option String) (fallback : String) : String :=
  String.ofList (guardEnd (escapeTriples (escapeBackslashes (documented text fallback).toList)))

end ApiBindings.Bindings
