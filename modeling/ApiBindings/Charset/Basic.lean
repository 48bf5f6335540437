import ApiBindings.Charset.HighTable
import ApiBindings.Charset.Utf8
import ApiBindings.Error
import ApiBindings.Text.CharClass
/-!
# Charsets

The charsets of this library, the labels under which they go, and the text of bytes in each. Bytes
without a character are replaced. All further charsets are those of a registry, which comes with the
host that the library runs on.
-/

namespace ApiBindings

/-- A way of this library to read bytes as characters. -/
inductive Charset where
  | utf8
  /-- UTF-8 whose byte order mark is no character. -/
  | signedUtf8
  | utf16le
  | latin1
  /-- ASCII with further characters for the bytes from 80 on. -/
  | extended (high : List Nat)
  deriving DecidableEq, Repr

namespace Charset

/-! ## Labels -/

/-- Letters, digits and dots of a label; the rest parts its words. -/
def isLabelLetter (c : Char) : Bool := Text.isAsciiLetter c || Text.isAsciiDigit c || c == '.'

/-- A label with one underscore between its words and none at its ends. -/
def plainLabel (label : List Char) : List Char :=
  let rec go : Bool → List Char → List Char
    | _, [] => []
    | started, c :: cs =>
      if isLabelLetter c then c :: go true cs
      else
        match cs with
        | [] => []
        | d :: _ => if started && isLabelLetter d then '_' :: go started cs else go started cs
  go false label

/-- The name of each charset, in which a dot is not an underscore. -/
def names : List (String × Charset) := [
  ("utf_8", .utf8), ("utf_8_sig", .signedUtf8), ("utf_16_le", .utf16le), ("latin_1", .latin1),
  ("cp1252", .extended windows1252High), ("cp1251", .extended windows1251High),
  ("koi8_r", .extended koi8rHigh), ("iso8859_2", .extended latin2High),
  ("iso8859_15", .extended latin9High)]

/-- Further labels of the charsets. -/
def aliases : List (String × Charset) :=
  let all (labels : List String) (charset : Charset) := labels.map fun n => (n, charset)
  all ["u8", "utf", "utf8", "utf8_ucs2", "utf8_ucs4", "cp65001"] .utf8
  ++ all ["unicodelittleunmarked", "utf_16le"] .utf16le
  ++ all ["8859", "cp819", "csisolatin1", "ibm819", "iso8859", "iso8859_1", "iso_8859_1",
    "iso_8859_1_1987", "iso_ir_100", "l1", "latin", "latin1"] .latin1
  ++ all ["1252", "windows_1252"] (.extended windows1252High)
  ++ all ["1251", "windows_1251"] (.extended windows1251High)
  ++ all ["cskoi8r"] (.extended koi8rHigh)
  ++ all ["csisolatin2", "iso_8859_2", "iso_8859_2_1987", "iso_ir_101", "l2", "latin2"]
    (.extended latin2High)
  ++ all ["iso_8859_15", "l9", "latin9"] (.extended latin9High)

/-- The charset of this library that goes by a label, if one does. -/
def ofLabel? (label : String) : Option Charset :=
  let plain := plainLabel label.toList
  ((names ++ aliases).lookup (String.ofList plain)).or
    (aliases.lookup (String.ofList (plain.map fun c => if c == '.' then '_' else c)))

/-! ## Reading -/

/-- The character of a byte, given the characters of the bytes from 80 on. -/
def byteChar (high : List Nat) (b : UInt8) : Char :=
  if b.toNat < 0x80 then Char.ofNat b.toNat
  else Char.ofNat (high.getD (b.toNat - 0x80) 0xFFFD)

/-- The characters of two-byte units, low byte first; `read` holds the characters so far, last
first. A surrogate without its partner, an odd byte, and a first surrogate at the end are
replaced. -/
def decodeUtf16Aux (read : List Char) : List UInt8 → List Char
  | [] => read.reverse
  | [_] => (replacement :: read).reverse
  | a :: b :: rest =>
    let unit := a.toNat + b.toNat * 0x100
    if unit < 0xD800 || 0xDFFF < unit then decodeUtf16Aux (Char.ofNat unit :: read) rest
    else if 0xDBFF < unit then decodeUtf16Aux (replacement :: read) rest
    else
      match rest with
      | c :: d :: rest' =>
        let low := c.toNat + d.toNat * 0x100
        if 0xDC00 ≤ low && low ≤ 0xDFFF then
          decodeUtf16Aux
            (Char.ofNat (0x10000 + (unit - 0xD800) * 0x400 + (low - 0xDC00)) :: read) rest'
        else decodeUtf16Aux (replacement :: read) (c :: d :: rest')
      | _ => (replacement :: read).reverse

/-- The characters of some bytes. -/
def decode (charset : Charset) (bytes : List UInt8) : List Char :=
  match charset with
  | .utf8 => decodeUtf8 bytes
  | .signedUtf8 =>
    match bytes with
    | 0xEF :: 0xBB :: 0xBF :: rest => decodeUtf8 rest
    | _ => decodeUtf8 bytes
  | .utf16le => decodeUtf16Aux [] bytes
  | .latin1 => bytes.map fun b => Char.ofNat b.toNat
  | .extended high => bytes.map (byteChar high)

/-! ## Further charsets -/

/-- The charsets that a host has beside those of this library: what it reads of bytes under a label,
or how that fails, if it knows a charset by the label. -/
abbrev Registry := String → List UInt8 → Option (Except Mishap (List Char))

/-- The characters of some bytes in the charset that goes by a label, if one does. -/
def read? (further : Registry) (label : String) (bytes : List UInt8) :
    Option (Except Mishap (List Char)) :=
  match ofLabel? label with
  | some charset => some (.ok (charset.decode bytes))
  | none => further label bytes

end Charset

end ApiBindings
