import ApiBindings.Files.Fault
import ApiBindings.Text.Quoted
/-!
# Errors

Everything that can go wrong between the reference page and the written modules, one constructor per
cause. The wording of each is in `Error.message` and nowhere else.
-/

namespace ApiBindings

/-- How a part fails that is not of this library. -/
structure Mishap where
  kind : String
  message : String
  deriving DecidableEq, Repr

/-- Why no answer can be given. -/
inductive Error where
  /-- The shared affix of no labels at all was asked for. -/
  | noLabels
  /-- A decimal number in the markup has more digits than are read. -/
  | longNumber (digits : Nat)
  /-- Calls are nested deeper than there is room for. -/
  | deepNesting
  /-- The brackets in the host of a link or its base do not stand around the whole of an address. -/
  | misplacedBrackets
  /-- What stands in the brackets of a host is no address. -/
  | unknownAddress (address : String)
  /-- What stands in the brackets of a host is an address of version four. -/
  | bracketedIPv4
  /-- What stands in the brackets of a host begins like an address of a later version and is none.
  -/
  | malformedFutureAddress
  /-- A host holds a character that folds to one that ends or divides a host. -/
  | foldedHost (host : String)
  /-- The declared charset holds a NUL. -/
  | nulInCharset
  /-- A path holds a NUL. -/
  | nulInPath
  /-- The reference page at `path` cannot be read. -/
  | unreadablePage (path : String) (fault : Files.Fault)
  /-- The output directory cannot be made. -/
  | unmadeDirectory (path : String) (fault : Files.Fault)
  /-- A generated module cannot be put in its place. -/
  | unwrittenModule (path : String) (fault : Files.Fault)
  /-- The log file cannot be opened. -/
  | unopenedLog (fault : Files.Fault)
  /-- A part that is not of this library has failed. -/
  | outside (mishap : Mishap)
  deriving DecidableEq, Repr

/-- What is said about an error. -/
def Error.message : Error → String
  | .noLabels => "list index out of range"
  | .longNumber digits =>
    "Exceeds the limit (4300 digits) for integer string conversion: value has "
      ++ toString digits ++ " digits; use sys.set_int_max_str_digits() to increase the limit"
  -- what the reader of phrases says; the writer of types may leave out the end
  | .deepNesting => "maximum recursion depth exceeded while calling a Python object"
  | .misplacedBrackets => "Invalid IPv6 URL"
  | .unknownAddress address =>
    Text.quoted address ++ " does not appear to be an IPv4 or IPv6 address"
  | .bracketedIPv4 => "An IPv4 address cannot be in brackets"
  | .malformedFutureAddress => "IPvFuture address is invalid"
  | .foldedHost host =>
    "netloc '" ++ host ++ "' contains invalid characters under NFKC normalization"
  | .nulInCharset => "embedded null character"
  | .nulInPath => "embedded null byte"
  | .unreadablePage path fault => "Cannot read document " ++ path ++ ": " ++ fault.message
  | .unmadeDirectory path fault =>
    "Cannot create output directory " ++ path ++ ": " ++ fault.message
  | .unwrittenModule path fault => "Cannot write " ++ path ++ ": " ++ fault.message
  | .unopenedLog fault => fault.message
  | .outside mishap => mishap.message

/-- What is there, `s`, with what has been read put into it; an error leaves it as it is. -/
def receive {σ α : Type} (s : σ) (read : Except Error α) (put : α → σ) : σ × Option Error :=
  match read with
  | .ok a => (put a, none)
  | .error e => (s, some e)

end ApiBindings
