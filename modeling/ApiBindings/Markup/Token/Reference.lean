import ApiBindings.Markup.Token.Basic
/-!
# References in running text

What an `&` begins: a number, a name, or nothing. A reference that might go on stops the reader.
Main statement: what follows a reference is an end of the text it was found in
(`readReference_suffix`).
-/

namespace ApiBindings.Markup

/-- A character that may continue the name of a reference. -/
def isRefNameChar (c : Char) : Bool :=
  Text.isAsciiLetter c || Text.isAsciiDigit c || c == '-' || c == '.'

/-- The number that follows `&#`, if a character follows it that is no digit, and the text from that
character on. -/
def readNumeral? (s : List Char) : Option (Numeral × List Char) :=
  (leadingNumeral? s).filter fun (_, rest) => rest.head?.any (!isHexDigit ·)

/-- The name that follows an `&`, and the text from the character behind it on. At the end of the
text only a dash or a dot of the name itself can be that character. -/
def readName? (s : List Char) : Option (List Char × List Char) :=
  let name := s.takeWhile isRefNameChar
  match s.dropWhile isRefNameChar with
  | c :: cs => some (name, c :: cs)
  | [] =>
    let isMark := fun c => c == '-' || c == '.'
    match name.reverse.dropWhile (!isMark ·) with
    | [] => none
    | mark :: before => some (before.reverse, mark :: (name.reverse.takeWhile (!isMark ·)).reverse)

/-- What an `&` begins that stands before `s`; in the last pass a lone letter behind it stays. -/
def readReference (last : Bool) (s : List Char) : Found :=
  match s with
  | [] => .stop [] ['&']
  | '#' :: rest =>
    match readNumeral? rest with
    | some (numeral, after) =>
      match numeral.read with
      | .ok n => .tokens [.text [numbered n]] (dropSemicolon after)
      | .error why => .refused why
    | none => if rest.contains ';' then .stop [.text ['&', '#']] rest else .stop [] ('&' :: s)
  | c :: _ =>
    if Text.isAsciiLetter c then
      match readName? s with
      | some (name, after) => .tokens [.text (namedOrSelf name)] (dropSemicolon after)
      | none => if last && s.length == 1 then .stop [] s else .stop [] ('&' :: s)
    else .tokens [.text ['&']] s

theorem readNumeral?_suffix {s rest : List Char} {n : Numeral}
    (h : readNumeral? s = some (n, rest)) : rest <:+ s :=
  leadingNumeral?_suffix (Option.filter_eq_some_iff.1 h).1

theorem readName?_suffix {s name rest : List Char} (h : readName? s = some (name, rest)) :
    rest <:+ s := by
  unfold readName? at h
  dsimp only at h
  split at h
  · rename_i c cs hc
    obtain ⟨_, rfl⟩ := by simpa using h
    exact hc ▸ List.dropWhile_suffix _
  · rename_i hn
    split at h
    · simp at h
    · rename_i mark before hm
      obtain ⟨_, rfl⟩ := by simpa using h
      have hs : s = s.takeWhile isRefNameChar := by
        conv => lhs; rw [← List.takeWhile_append_dropWhile (p := isRefNameChar) (l := s), hn]
        simp
      refine ⟨before.reverse, ?_⟩
      have := congrArg List.reverse (List.takeWhile_append_dropWhile
        (p := fun c => !(c == '-' || c == '.')) (l := (s.takeWhile isRefNameChar).reverse))
      rw [hm] at this
      simp only [List.reverse_append, List.reverse_cons, List.reverse_reverse] at this
      rw [← hs] at this ⊢
      simpa using this

/-- What follows a reference is an end of the text behind its `&`. -/
theorem readReference_suffix {last : Bool} {s rest : List Char}
    (h : (readReference last s).rest? = some rest) : rest <:+ s := by
  unfold readReference at h
  split at h
  · simp [Found.rest?] at h
  · split at h
    · rename_i hn
      split at h
      · obtain rfl := by simpa [Found.rest?] using h
        exact ((dropSemicolon_suffix _).trans (readNumeral?_suffix hn)).trans
          (List.suffix_cons _ _)
      · simp [Found.rest?] at h
    · split at h <;> simp [Found.rest?] at h
  · split at h
    · split at h
      · rename_i hn
        obtain rfl := by simpa [Found.rest?] using h
        exact (dropSemicolon_suffix _).trans (readName?_suffix hn)
      · split at h <;> simp [Found.rest?] at h
    · obtain rfl := by simpa [Found.rest?] using h
      exact List.suffix_refl _

end ApiBindings.Markup
