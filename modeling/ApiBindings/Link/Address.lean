import ApiBindings.Text.Affix
import ApiBindings.Text.CharClass
import ApiBindings.Text.Pieces
/-!
# Addresses

The addresses of the Internet Protocol that can stand in the place of a host name: four octets
between dots in version four, eight groups between colons in version six, and whatever a later
version may bring.
-/

namespace ApiBindings.Link

/-! ## Version four -/

/-- A number below 256 in decimal, without zeros in front. -/
def isOctet (s : List Char) : Bool :=
  match s with
  | [] => false
  | c :: cs =>
    s.length ≤ 3 && s.all Text.isAsciiDigit && (cs.isEmpty || c != '0')
      && s.foldl (fun n d => 10 * n + (d.toNat - '0'.toNat)) 0 < 256

/-- An address of version four. -/
def isIPv4 (s : List Char) : Bool :=
  let octets := Text.pieces (· == '.') s
  octets.length == 4 && octets.all isOctet

/-! ## Version six -/

/-- A group of an address: one to four hexadecimal digits. -/
def isGroup (s : List Char) : Bool :=
  !s.isEmpty && s.length ≤ 4 && s.all fun c => (Text.hexValue? c).isSome

/-- The number of groups between colons; an address of version four at the end counts for two. -/
def groupCount? (pieces : List (List Char)) : Option Nat :=
  match pieces with
  | [] => some 0
  | [s] => if isGroup s then some 1 else if isIPv4 s then some 2 else none
  | s :: rest => if isGroup s then (groupCount? rest).map (· + 1) else none

/-- The number of groups on one side of two colons, where there can be none. -/
def sideCount? (s : List Char) : Option Nat :=
  if s.isEmpty then some 0 else groupCount? (Text.pieces (· == ':') s)

/-- Eight groups, or fewer around two colons that stand for the missing ones; dots can only come at
the very end. -/
def isGroups (s : List Char) : Bool :=
  match Text.cut? [':', ':'] s with
  | none => groupCount? (Text.pieces (· == ':') s) == some 8
  | some (before, after) =>
    match sideCount? before, sideCount? after with
    | some m, some n => !before.contains '.' && m + n < 8
    | _, _ => false

/-- The zone of an address is not empty and holds no percent sign. -/
def isZone (s : List Char) : Bool := !s.isEmpty && !s.contains '%'

/-- An address of version six, with or without a zone behind a percent sign. -/
def isIPv6 (s : List Char) : Bool :=
  match Text.cut? ['%'] s with
  | none => isGroups s
  | some (groups, zone) => isGroups groups && isZone zone

/-! ## Later versions -/

/-- The mark of an address of a later version. -/
def futureMark : Char := 'v'

/-- An address of a later version: the mark, the version in hexadecimal, a dot, and something. -/
def isFutureAddress (s : List Char) : Bool :=
  match s with
  | [] => false
  | c :: cs =>
    match Text.cut? ['.'] cs with
    | none => false
    | some (version, address) =>
      c == futureMark && !version.isEmpty && version.all (fun d => (Text.hexValue? d).isSome)
        && !address.isEmpty

end ApiBindings.Link
