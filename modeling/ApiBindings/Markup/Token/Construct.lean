import ApiBindings.Markup.Token.Basic
import ApiBindings.Markup.Token.Ending
/-!
# Constructs

What a `<` begins: an opening or a closing tag, a comment, a declaration, an instruction, a marked
section, or nothing. Main statement: what follows a construct is an end of the text it was found in
(`readMarkup_suffix`).
-/

namespace ApiBindings.Markup

/-! ## Closing tags, comments and declarations -/

/-- A character that may continue the name of a closing tag. -/
def isClosingNameChar (c : Char) : Bool :=
  Text.isAsciiLetter c || Text.isAsciiDigit c || c == '-' || c == '.' || c == ':' || c == '_'

/-- What the characters between `</` and `>` close: a name with blanks around it, else the name
that they begin with, whatever follows it. Without characters there is nothing, and without a name
an aside. -/
def closingTokens (inner : List Char) : List Token :=
  let body := inner.dropWhile Text.isBlank
  if body.head?.any Text.isAsciiLetter && (body.dropWhile isClosingNameChar).all Text.isBlank then
    [.closing ((body.takeWhile isClosingNameChar).map Text.asciiLower)]
  else
    match inner with
    | [] => []
    | c :: _ =>
      if Text.isAsciiLetter c then [.closing (Text.lower (inner.takeWhile isTagNameChar))]
      else [.aside]

/-- The closing tag that follows `</`. -/
def readClosing (s : List Char) : Found :=
  match Text.cut? ['>'] s with
  | none => .incomplete
  | some (inner, rest) => .tokens (closingTokens inner) rest

/-- An aside up to an end that `cut` finds. -/
def readAside (cut : Option (List Char × List Char)) : Found :=
  match cut with
  | none => .incomplete
  | some (_, rest) => .tokens [.aside] rest

/-- A character that may continue the status of a section. -/
def isStatusChar (c : Char) : Bool :=
  Text.isAsciiLetter c || Text.isAsciiDigit c || c == '-' || c == '_' || c == '.'

/-- The token of a section with the given content, status included. -/
def sectionToken (content : List Char) : Token :=
  if (content.take 6).map Text.asciiLower == "cdata[".toList then .verbatim (content.drop 6)
  else .aside

/-- The marked section that follows `<![`. Its status decides how it ends. -/
def readSection (s : List Char) : Found :=
  match s with
  | [] => .incomplete
  | c :: _ =>
    let status := s.takeWhile isStatusChar
    let behind := s.dropWhile isStatusChar
    let keyword := String.ofList (status.map Text.asciiLower)
    if !Text.isAsciiLetter c then
      .refused (.rejected (.unnamedStatus (String.ofList (('<' :: '!' :: '[' :: s).take 20))))
    else if (behind.dropWhile Text.isBlank).isEmpty then .incomplete
    else if ["temp", "cdata", "ignore", "include", "rcdata"].contains keyword then
      match cutAt? sectionEnd? s with
      | none => .incomplete
      | some (content, rest) => .tokens [sectionToken content] rest
    else if ["if", "else", "endif"].contains keyword then readAside (cutAt? conditionEnd? s)
    else
      .refused (.rejected
        (.unknownStatus (String.ofList (status ++ behind.takeWhile Text.isBlank))))

/-- What a `<` begins that stands before `s`. -/
def readMarkup (s : List Char) : Found :=
  match s with
  | [] => .stop [] ['<']
  | '/' :: rest => readClosing rest
  | '!' :: '-' :: '-' :: rest => readAside (cutAt? commentEnd? rest)
  | '!' :: '[' :: rest => readSection rest
  | '!' :: rest => readAside (Text.cut? ['>'] rest)
  | '?' :: rest => readAside (Text.cut? ['>'] rest)
  | c :: _ =>
    if Text.isAsciiLetter c then
      match readTag s with
      | .tag name attributes selfClosed rest => .tokens [.opening name attributes selfClosed] rest
      | .stray text rest => .tokens [.text text] rest
      | .incomplete => .incomplete
      | .refused why => .refused why
    else .tokens [.text ['<']] s

theorem readClosing_suffix {s rest : List Char} (h : (readClosing s).rest? = some rest) :
    rest <:+ s := by
  unfold readClosing at h
  split at h
  · simp [Found.rest?] at h
  · rename_i hc
    obtain rfl := by simpa [Found.rest?] using h
    exact Text.cut?_suffix hc

theorem readAside_suffix {s rest : List Char} {cut : Option (List Char × List Char)}
    (hcut : ∀ before after, cut = some (before, after) → after <:+ s)
    (h : (readAside cut).rest? = some rest) : rest <:+ s := by
  unfold readAside at h
  split at h
  · simp [Found.rest?] at h
  · obtain rfl := by simpa [Found.rest?] using h
    exact hcut _ _ rfl

theorem readSection_suffix {s rest : List Char} (h : (readSection s).rest? = some rest) :
    rest <:+ s := by
  unfold readSection at h
  split at h
  · simp [Found.rest?] at h
  · dsimp only at h
    split at h
    · simp [Found.rest?] at h
    split at h
    · simp [Found.rest?] at h
    split at h
    · split at h
      · simp [Found.rest?] at h
      · rename_i hc
        obtain rfl := by simpa [Found.rest?] using h
        exact cutAt?_suffix (fun _ _ => sectionEnd?_suffix) hc
    split at h
    · exact readAside_suffix (fun _ _ => cutAt?_suffix fun _ _ => conditionEnd?_suffix) h
    · simp [Found.rest?] at h

/-- What follows a construct is an end of the text behind its `<`. -/
theorem readMarkup_suffix {s rest : List Char} (h : (readMarkup s).rest? = some rest) :
    rest <:+ s := by
  unfold readMarkup at h
  split at h
  · simp [Found.rest?] at h
  · exact (readClosing_suffix h).trans (List.suffix_cons _ _)
  · exact (((readAside_suffix (fun _ _ => cutAt?_suffix fun _ _ => commentEnd?_suffix) h).trans
      (List.suffix_cons _ _)).trans (List.suffix_cons _ _)).trans (List.suffix_cons _ _)
  · exact ((readSection_suffix h).trans (List.suffix_cons _ _)).trans (List.suffix_cons _ _)
  · exact (readAside_suffix (fun _ _ => Text.cut?_suffix) h).trans (List.suffix_cons _ _)
  · exact (readAside_suffix (fun _ _ => Text.cut?_suffix) h).trans (List.suffix_cons _ _)
  · split at h
    · split at h
      · rename_i ht
        obtain rfl := by simpa [Found.rest?] using h
        exact (readTag_rest_suffix _).1 _ _ _ _ ht
      · rename_i ht
        obtain rfl := by simpa [Found.rest?] using h
        exact (readTag_rest_suffix _).2 _ _ ht
      · simp [Found.rest?] at h
      · simp [Found.rest?] at h
    · obtain rfl := by simpa [Found.rest?] using h
      exact List.suffix_refl _

end ApiBindings.Markup
