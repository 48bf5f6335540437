import ApiBindings.Error
import ApiBindings.Link.Address
/-!
# Hosts

The host of a link target, and why one is refused: brackets stand around an address and nothing
else, and no character folds to one that ends or divides a host.
-/

namespace ApiBindings.Link

/-! ## Finding hosts -/

/-- The host that follows `//`, and what follows the host. -/
def splitHost (s : List Char) : List Char × List Char :=
  match s with
  | '/' :: '/' :: rest =>
    let isInside := fun c => c != '/' && c != '?' && c != '#'
    (rest.takeWhile isInside, rest.dropWhile isInside)
  | _ => ([], s)

/-- What stands before the first `mark`, and behind it. -/
def splitAtMark (mark : Char) (s : List Char) : List Char × List Char :=
  (Text.cut? [mark] s).getD (s, [])

/-- A host without the user in front of it. -/
def withoutUser (host : List Char) : List Char := (host.reverse.takeWhile (· != '@')).reverse

/-! ## Brackets -/

/-- Why a text in brackets is refused, if it is. -/
def addressError? (s : List Char) : Option Error :=
  if s.head? == some futureMark then
    if isFutureAddress s then none else some .malformedFutureAddress
  else if isIPv4 s then some .bracketedIPv4
  else if isIPv6 s then none
  else some (.unknownAddress (String.ofList s))

/-- Why a host with brackets is refused, if it is. The brackets may also both belong to the user,
and then the host itself has to be what they would enclose. -/
def bracketError? (host : List Char) : Option Error :=
  match Text.cut? ['['] (withoutUser host) with
  | none => addressError? (splitAtMark ':' (withoutUser host)).1
  | some ([], inside) =>
    let (address, port) := splitAtMark ']' inside
    if port.isEmpty || port.head? == some ':' then addressError? address
    else some .misplacedBrackets
  | some _ => some .misplacedBrackets

/-! ## Hosts that are refused -/

/-- Characters that stand for, or hold, a character that ends or divides a host. -/
def foldedDelimiters : List Nat := [
  0x2047, 0x2048, 0x2049, 0x2100, 0x2101, 0x2105, 0x2106, 0x2A74, 0xFE13, 0xFE16, 0xFE55, 0xFE56,
  0xFE5F, 0xFE6B, 0xFF03, 0xFF0F, 0xFF1A, 0xFF1F, 0xFF20]

/-- A host holds a character that folds to one that ends or divides a host. -/
def isFolded (host : List Char) : Bool := host.any fun c => foldedDelimiters.contains c.toNat

/-- Why a host is refused, if it is. -/
def hostError? (host : List Char) : Option Error :=
  let foldError := if isFolded host then some (Error.foldedHost (String.ofList host)) else none
  match host.contains '[', host.contains ']' with
  | false, false => foldError
  | true, true => (bracketError? host).or foldError
  | _, _ => some .misplacedBrackets

end ApiBindings.Link
