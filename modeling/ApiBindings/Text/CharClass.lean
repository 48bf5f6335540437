import ApiBindings.Text.Table.Letter
import ApiBindings.Text.Table.Identifier
import ApiBindings.Text.Table.Printable
/-!
# Character classes

Membership of a character in the classes that the library distinguishes: blanks, cased letters,
digits, letters of identifiers and characters without a printed form. Each class is a list of
inclusive ranges of code points, and a question about it is a search in that list.
-/

namespace ApiBindings.Text

/-! ## Ranges and strides -/

/-- `c` lies in one of the inclusive ranges. -/
def inRanges (ranges : List (Nat × Nat)) (c : Char) : Bool :=
  ranges.any fun r => r.1 ≤ c.toNat && c.toNat ≤ r.2

/-- `c` is met by one of the strides `(first, last, step)`. -/
def inStrides (strides : List (Nat × Nat × Nat)) (c : Char) : Bool :=
  strides.any fun s => s.1 ≤ c.toNat && c.toNat ≤ s.2.1 && (c.toNat - s.1) % s.2.2 == 0

/-! ## Blanks -/

/-- The blank characters: the ASCII ones, four information separators and the spaces of Unicode. -/
def blankRanges : List (Nat × Nat) := [
  (0x09, 0x0D), (0x1C, 0x20), (0x85, 0x85), (0xA0, 0xA0), (0x1680, 0x1680), (0x2000, 0x200A),
  (0x2028, 0x2029), (0x202F, 0x202F), (0x205F, 0x205F), (0x3000, 0x3000)]

/-- Blank characters separate words and are trimmed from the ends of a text. -/
def isBlank (c : Char) : Bool := inRanges blankRanges c

/-! ## Letters and digits -/

/-- An upper-case letter; a titlecase letter is neither upper nor lower. -/
def isUpper (c : Char) : Bool := inStrides upperStrides c

/-- A lower-case letter. -/
def isLower (c : Char) : Bool := inStrides lowerStrides c

/-- A digit in any script, superscripts included. -/
def isDigit (c : Char) : Bool := inRanges digitRanges c

/-- A digit of a decimal number in any script. -/
def isDecimal (c : Char) : Bool := inRanges decimalRanges c

/-- An ASCII letter. -/
def isAsciiLetter (c : Char) : Bool := ('a' ≤ c && c ≤ 'z') || ('A' ≤ c && c ≤ 'Z')

/-- An ASCII digit. -/
def isAsciiDigit (c : Char) : Bool := '0' ≤ c && c ≤ '9'

/-- The lower-case form of an ASCII letter; any other character is its own. -/
def asciiLower (c : Char) : Char := if 'A' ≤ c && c ≤ 'Z' then Char.ofNat (c.toNat + 32) else c

/-- The value of a hexadecimal digit. -/
def hexValue? (c : Char) : Option Nat :=
  if isAsciiDigit c then some (c.toNat - 48)
  else if 'a' ≤ asciiLower c && asciiLower c ≤ 'f' then some ((asciiLower c).toNat - 87)
  else none

/-! ## Letters of identifiers -/

/-- A character that may stand first in an identifier. -/
def isIdentifierStart (c : Char) : Bool := inRanges identifierStartRanges c

/-- A character that may stand after the first one in an identifier. -/
def isIdentifierContinue (c : Char) : Bool := inRanges identifierContinueRanges c

/-! ## Printed form -/

/-- A character that stands for itself in a quoted text. -/
def isPrintable (c : Char) : Bool := !inRanges hiddenRanges c

end ApiBindings.Text
