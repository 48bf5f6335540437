import ApiBindings.Text.CharClass
/-!
# The declared charset

A page names its charset in a `meta` tag near its beginning. Of several names in one tag the last
usable one counts, and of several tags the first that has one. A few labels mean another charset
than they say, as in every browser.
-/

namespace ApiBindings.Charset

/-! ## Words -/

/-- What follows a word, written in lower case, that the text begins with in any case. -/
def dropWord? : List Char → List Char → Option (List Char)
  | [], s => some s
  | _ :: _, [] => none
  | w :: ws, c :: cs => if w == Text.asciiLower c then dropWord? ws cs else none

/-- A quote of either kind. -/
def isQuote (c : Char) : Bool := c == '"' || c == '\''

/-- A character of a charset's name. -/
def isNameChar (c : Char) : Bool :=
  !(Text.isBlank c || isQuote c || c == ';' || c == '>')

/-- The name that the text begins with, if it begins with one. -/
def leadingName? (s : List Char) : Option (List Char) :=
  if (s.takeWhile isNameChar).isEmpty then none else some (s.takeWhile isNameChar)

/-- The text behind a quote that it may begin with. -/
def dropQuote : List Char → List Char
  | c :: cs => if isQuote c then cs else c :: cs
  | [] => []

/-! ## Places -/

/-- What is found at the last place of the text where something is found, `>` not passed over. -/
def lastFound (find? : List Char → Option (List Char)) : List Char → Option (List Char)
  | [] => none
  | c :: cs => if c == '>' then none else (lastFound find? cs).or (find? (c :: cs))

/-- What is found at the last place of the text where something is found. -/
def lastAnywhere (find? : List Char → Option (List Char)) : List Char → Option (List Char)
  | [] => none
  | c :: cs => (lastAnywhere find? cs).or (find? (c :: cs))

/-- What is found in the first `meta` tag in which something is found, at least one character behind
its name. -/
def firstMeta (find? : List Char → Option (List Char)) : List Char → Option (List Char)
  | [] => none
  | c :: cs =>
    let here :=
      match dropWord? "<meta".toList (c :: cs) with
      | some (d :: rest) => if d == '>' then none else lastFound find? rest
      | _ => none
    here.or (firstMeta find? cs)

/-! ## Names in tags -/

/-- The name behind `charset=`, a quote and blanks. -/
def charsetName? (s : List Char) : Option (List Char) :=
  (dropWord? "charset=".toList s).bind fun rest =>
    leadingName? ((dropQuote rest).dropWhile Text.isBlank)

/-- The name right behind `charset=`. -/
def bareCharsetName? (s : List Char) : Option (List Char) :=
  (dropWord? "charset=".toList s).bind leadingName?

/-- The name right behind the last usable `charset=` inside the quotes behind `content=`. -/
def contentCharsetName? (s : List Char) : Option (List Char) :=
  match dropWord? "content=".toList s with
  | some (q :: rest) =>
    if isQuote q then lastAnywhere bareCharsetName? (rest.takeWhile (!isQuote ·)) else none
  | _ => none

/-! ## The charset of a page -/

/-- Labels that mean another charset than they say. -/
def remapped : List (String × String) := [
  ("iso-8859-1", "windows-1252"), ("iso8859-1", "windows-1252"), ("latin-1", "windows-1252"),
  ("latin1", "windows-1252"), ("us-ascii", "windows-1252"), ("ascii", "windows-1252"),
  ("utf8", "utf-8")]

/-- The ASCII characters among the first 2048 bytes. -/
def head (bytes : List UInt8) : List Char :=
  ((bytes.take 2048).filter (·.toNat < 0x80)).map fun b => Char.ofNat b.toNat

/-- The name that a page gives to its charset, if it gives one. -/
def declaredName? (page : List Char) : Option (List Char) :=
  (firstMeta charsetName? page).or (firstMeta contentCharsetName? page)

/-- The label of the charset that a page is in. -/
def declared (bytes : List UInt8) : String :=
  match declaredName? (head bytes) with
  | none => "utf-8"
  | some name =>
    let label := String.ofList (name.map Text.asciiLower)
    (remapped.lookup label).getD label

end ApiBindings.Charset
