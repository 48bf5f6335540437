import ApiBindings.Charset.HighTable
import ApiBindings.Markup.Refusal
import ApiBindings.Markup.Table.NamedCharacter
/-!
# Character references

The characters that `&#…;` and `&name;` stand for. In running text a reference has to be complete;
an attribute value is more lenient, and some names count there without a semicolon or with letters
behind them. A decimal number that is too long refuses the fragment.
-/

namespace ApiBindings.Markup

/-! ## Numbers -/

/-- The number written by digits in a base of at most sixteen. -/
def numberOf (base : Nat) (digits : List Char) : Nat :=
  digits.foldl (fun n d => n * base + (Text.hexValue? d).getD 0) 0

/-- A hexadecimal digit. -/
def isHexDigit (c : Char) : Bool := (Text.hexValue? c).isSome

/-- A number as it is written. -/
inductive Numeral where
  | decimal (digits : List Char)
  | hexadecimal (digits : List Char)
  deriving DecidableEq, Repr

/-- A decimal number may have so many digits, zeros in front included. -/
def digitLimit : Nat := 4300

/-- The number that is written, unless it is too long to be read. -/
def Numeral.read : Numeral → Except Refusal Nat
  | .decimal digits =>
    if digitLimit < digits.length then .error (.longNumber digits.length)
    else .ok (numberOf 10 digits)
  | .hexadecimal digits => .ok (numberOf 16 digits)

/-- The digits that the text begins with, if there are any, and what follows them. -/
def leadingDigits? (isDigit : Char → Bool) (s : List Char) : Option (List Char × List Char) :=
  if (s.takeWhile isDigit).isEmpty then none else some (s.takeWhile isDigit, s.dropWhile isDigit)

/-- The number that the text begins with, hexadecimal behind an `x` and else decimal, and what
follows it. -/
def leadingNumeral? : List Char → Option (Numeral × List Char)
  | 'x' :: s | 'X' :: s =>
    (leadingDigits? isHexDigit s).map fun (digits, rest) => (.hexadecimal digits, rest)
  | s => (leadingDigits? Text.isAsciiDigit s).map fun (digits, rest) => (.decimal digits, rest)

theorem leadingDigits?_suffix {isDigit : Char → Bool} {s digits rest : List Char}
    (h : leadingDigits? isDigit s = some (digits, rest)) : rest <:+ s := by
  unfold leadingDigits? at h
  split at h
  · simp at h
  · obtain ⟨_, rfl⟩ := by simpa using h
    exact List.dropWhile_suffix _

/-- What follows a number is an end of the text. -/
theorem leadingNumeral?_suffix {s rest : List Char} {n : Numeral}
    (h : leadingNumeral? s = some (n, rest)) : rest <:+ s := by
  unfold leadingNumeral? at h
  split at h
  all_goals
    obtain ⟨⟨digits, after⟩, hd, he⟩ := Option.map_eq_some_iff.1 h
    obtain ⟨_, rfl⟩ := by simpa using he
  · exact (leadingDigits?_suffix hd).trans (List.suffix_cons _ _)
  · exact (leadingDigits?_suffix hd).trans (List.suffix_cons _ _)
  · exact leadingDigits?_suffix hd

/-- The character of a number: no character has the number zero, that of a surrogate or one above
the last code point, and the numbers 80 to 9F are those of windows-1252. -/
def numbered (n : Nat) : Char :=
  if n == 0 || (0xD800 ≤ n && n ≤ 0xDFFF) || 0x10FFFF < n then '\uFFFD'
  else if 0x80 ≤ n && n ≤ 0x9F then
    match Charset.windows1252High[n - 0x80]? with
    | some m => if m == 0xFFFD then Char.ofNat n else Char.ofNat m
    | none => Char.ofNat n
  else Char.ofNat n

/-- Control characters and noncharacters, which a number cannot bring into an attribute value. -/
def isBarred (n : Nat) : Bool :=
  (1 ≤ n && n ≤ 8) || n == 0x0B || (0x0E ≤ n && n ≤ 0x1F) || n == 0x7F
    || (0xFDD0 ≤ n && n ≤ 0xFDEF) || (n % 0x10000 == 0xFFFE) || (n % 0x10000 == 0xFFFF)

/-- The characters of a number inside an attribute value. -/
def numberedInValue (n : Nat) : List Char :=
  if n ≤ 0x10FFFF && isBarred n then [] else [numbered n]

/-! ## Names -/

/-- The characters of a name. -/
def named? : List Char → Option (List Char)
  | [] => none
  | c :: cs => ((namesAt c).lookup (String.ofList (c :: cs))).map (·.map Char.ofNat)

/-- A name in running text; an unknown one stands for its own letters. -/
def namedOrSelf (name : List Char) : List Char := (named? name).getD ('&' :: name)

/-- The characters of the longest beginning, of at most `n` characters, that needs no semicolon, and
what follows it. -/
def bareName? (name : List Char) : Nat → Option (List Char)
  | 0 => none
  | n + 1 =>
    if bareNames.contains (String.ofList (name.take (n + 1))) then
      (named? (name.take (n + 1))).map (· ++ name.drop (n + 1))
    else bareName? name n

/-- A name inside an attribute value, with its semicolon if it has one. -/
def namedInValue (name semicolon : List Char) : List Char :=
  match if semicolon.isEmpty then none else named? name with
  | some chars => chars
  | none =>
    match bareName? name name.length with
    | some chars => chars ++ semicolon
    | none => '&' :: name ++ semicolon

/-! ## Attribute values -/

/-- A character that may belong to a name inside an attribute value. -/
def isValueNameChar (c : Char) : Bool :=
  !(['\t', '\n', '\x0c', ' ', '<', '&', '#', ';'].contains c)

/-- A text without the semicolon that it may begin with. -/
def dropSemicolon : List Char → List Char
  | ';' :: rest => rest
  | rest => rest

/-- What follows a semicolon is an end of the text. -/
theorem dropSemicolon_suffix (s : List Char) : dropSemicolon s <:+ s := by
  unfold dropSemicolon
  split
  · exact List.suffix_cons _ _
  · exact List.suffix_refl _

/-- A text that begins with a semicolon gives that semicolon. -/
def takeSemicolon : List Char → List Char
  | ';' :: _ => [';']
  | _ => []

/-- What a reference inside an attribute value stands for. -/
inductive ValueRef where
  | number (n : Numeral)
  | name (chars : List Char)
  deriving DecidableEq, Repr

/-- The characters of a reference inside an attribute value. -/
def ValueRef.chars : ValueRef → Except Refusal (List Char)
  | .number n => n.read.map numberedInValue
  | .name chars => .ok chars

/-- The reference that follows an ampersand, and what follows the reference. -/
def valueRef? (s : List Char) : Option (ValueRef × List Char) :=
  match s with
  | '#' :: rest => (leadingNumeral? rest).map fun (n, after) => (.number n, dropSemicolon after)
  | rest =>
    let name := (rest.takeWhile isValueNameChar).take 32
    let after := rest.drop name.length
    if name.isEmpty then none
    else some (.name (namedInValue name (takeSemicolon after)), dropSemicolon after)

/-- What follows a reference is an end of what follows its ampersand. -/
theorem valueRef?_suffix {s after : List Char} {r : ValueRef}
    (h : valueRef? s = some (r, after)) : after <:+ s := by
  unfold valueRef? at h
  split at h
  · obtain ⟨⟨n, behind⟩, hn, he⟩ := Option.map_eq_some_iff.1 h
    obtain ⟨_, rfl⟩ := by simpa using he
    exact ((dropSemicolon_suffix _).trans (leadingNumeral?_suffix hn)).trans
      (List.suffix_cons _ _)
  · dsimp only at h
    split at h
    · simp at h
    · obtain ⟨_, rfl⟩ := by simpa using h
      exact (dropSemicolon_suffix _).trans (List.drop_suffix _ _)

/-- What follows a reference is not longer than what follows its ampersand. -/
theorem length_le_of_valueRef? {s after : List Char} {r : ValueRef}
    (h : valueRef? s = some (r, after)) : after.length ≤ s.length :=
  (valueRef?_suffix h).length_le

/-- An attribute value with its references replaced. -/
def decodeValue (s : List Char) : Except Refusal (List Char) :=
  match s with
  | [] => .ok []
  | c :: cs =>
    if c == '&' then
      match _h : valueRef? cs with
      | some (r, after) => do
        let chars ← r.chars
        return chars ++ (← decodeValue after)
      | none => (decodeValue cs).map ('&' :: ·)
    else (decodeValue cs).map (c :: ·)
termination_by s.length
decreasing_by
  · have := length_le_of_valueRef? _h
    simp; omega
  · simp
  · simp

end ApiBindings.Markup
