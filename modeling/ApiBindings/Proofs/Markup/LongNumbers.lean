import ApiBindings.Proofs.Markup.PlainText
import ApiBindings.Proofs.Outcome
import Mathlib.Data.List.Infix
/-!
# Numbers that are too long

A fragment is refused for a number only if it holds one: `&#` with more decimal digits behind it
than are read. The reader may find the number in running text or in the value of an attribute, in
either of its two passes. Main statements: a fragment without such a number is not refused for one
(`hasLongNumber_of_tree`), and a heading whose text is such a number is refused
(`tokens_numberHeading`).
-/

namespace ApiBindings.Markup

/-! ## Long numbers -/

/-- The text begins with a reference to a number of too many digits. -/
def startsLongNumber : List Char → Bool
  | '&' :: '#' :: rest => digitLimit < (rest.takeWhile Text.isAsciiDigit).length
  | _ => false

/-- The text holds such a reference. -/
def hasLongNumber (s : List Char) : Bool := s.tails.any startsLongNumber

theorem hasLongNumber_iff {s : List Char} :
    hasLongNumber s = true ↔ ∃ t, t <:+ s ∧ startsLongNumber t = true := by
  simp [hasLongNumber, List.mem_tails]

/-- Behind a text that goes on the number can only be longer. -/
theorem startsLongNumber_append {s : List Char} (h : startsLongNumber s = true)
    (t : List Char) : startsLongNumber (s ++ t) = true := by
  unfold startsLongNumber at h
  split at h
  · rename_i rest
    have hprefix :
        rest.takeWhile Text.isAsciiDigit <+: (rest ++ t).takeWhile Text.isAsciiDigit := by
      rw [List.takeWhile_append]
      split
      · exact (List.takeWhile_prefix _).trans (List.prefix_append _ _)
      · exact List.prefix_rfl
    have hlength := hprefix.length_le
    simp only [startsLongNumber, List.cons_append, decide_eq_true_eq] at h ⊢
    omega
  · cases h

/-- A text that holds one with a long number holds it too. -/
theorem hasLongNumber_of_isInfix {s t : List Char} (h : s <:+: t) (hs : hasLongNumber s = true) :
    hasLongNumber t = true := by
  obtain ⟨before, after, rfl⟩ := h
  obtain ⟨u, ⟨front, rfl⟩, hu⟩ := hasLongNumber_iff.1 hs
  refine hasLongNumber_iff.2 ⟨u ++ after, ⟨before ++ front, ?_⟩, startsLongNumber_append hu after⟩
  simp

/-- An end of a text is a part of it. -/
theorem hasLongNumber_of_isSuffix {s t : List Char} (h : s <:+ t) (hs : hasLongNumber s = true) :
    hasLongNumber t = true :=
  hasLongNumber_of_isInfix h.isInfix hs

/-- The number itself has no say in what stands before its `&`. -/
theorem hasLongNumber_of_cons {c : Char} {s : List Char} (hc : c ≠ '&')
    (h : hasLongNumber (c :: s) = true) : hasLongNumber s = true := by
  obtain ⟨t, ht, hstarts⟩ := hasLongNumber_iff.1 h
  rcases List.suffix_cons_iff.1 ht with rfl | ht
  · unfold startsLongNumber at hstarts
    split at hstarts
    · rename_i rest heq
      cases heq
      exact absurd rfl hc
    · cases hstarts
  · exact hasLongNumber_iff.2 ⟨t, ht, hstarts⟩

/-- A number that is refused is too long. -/
theorem startsLongNumber_of_read {s rest : List Char} {n : Numeral} {why : Refusal}
    (h : leadingNumeral? s = some (n, rest)) (hread : n.read = .error why) :
    startsLongNumber ('&' :: '#' :: s) = true := by
  unfold leadingNumeral? at h
  split at h
  all_goals
    obtain ⟨⟨digits, after⟩, hdigits, hn⟩ := Option.map_eq_some_iff.1 h
    cases hn
  · cases hread
  · cases hread
  · unfold leadingDigits? at hdigits
    split at hdigits
    · cases hdigits
    · cases hdigits
      unfold Numeral.read at hread
      dsimp only at hread
      by_cases hlong : digitLimit < (s.takeWhile Text.isAsciiDigit).length
      · simpa [startsLongNumber] using hlong
      · rw [if_neg hlong] at hread
        cases hread

/-- So is one behind an ampersand in a value. -/
theorem startsLongNumber_of_valueRef? {s after : List Char} {r : ValueRef} {why : Refusal}
    (h : valueRef? s = some (r, after)) (hchars : r.chars = .error why) :
    startsLongNumber ('&' :: s) = true := by
  unfold valueRef? at h
  split at h
  · obtain ⟨⟨n, behind⟩, hn, he⟩ := Option.map_eq_some_iff.1 h
    cases he
    cases hread : n.read with
    | error why' => exact startsLongNumber_of_read hn hread
    | ok number =>
      rw [ValueRef.chars, hread] at hchars
      cases hchars
  · dsimp only at h
    split at h
    · cases h
    · cases h
      cases hchars

/-! ## Opening tags -/

/-- A value is refused for a long number in it. -/
theorem hasLongNumber_of_decodeValue {s : List Char} {why : Refusal}
    (h : decodeValue s = .error why) : hasLongNumber s = true := by
  fun_induction decodeValue s with
  | case1 => cases h
  | case2 c cs hc r after hr ih =>
    obtain rfl : c = '&' := by simpa using hc
    cases hchars : r.chars with
    | error why' =>
      exact hasLongNumber_iff.2 ⟨_, List.suffix_rfl, startsLongNumber_of_valueRef? hr hchars⟩
    | ok chars =>
      rw [hchars] at h
      exact hasLongNumber_of_isSuffix ((valueRef?_suffix hr).trans (List.suffix_cons _ _))
        (ih (map_eq_error_iff.1 h))
  | case3 c cs hc hr ih =>
    exact hasLongNumber_of_isSuffix (List.suffix_cons c cs) (ih (map_eq_error_iff.1 h))
  | case4 c cs hc ih =>
    exact hasLongNumber_of_isSuffix (List.suffix_cons c cs) (ih (map_eq_error_iff.1 h))

/-- A value stands in the text that it is read from, but for an equals sign before it. -/
theorem hasLongNumber_of_readValue? {s value after : List Char} {last : Char}
    (h : readValue? s = some (value, last, after)) (hvalue : hasLongNumber value = true) :
    hasLongNumber s = true := by
  have hstart : ((s.dropWhile Text.isBlank).dropWhile (· == '=')).dropWhile Text.isBlank <:+ s :=
    ((List.dropWhile_suffix _).trans (List.dropWhile_suffix _)).trans (List.dropWhile_suffix _)
  have hbare : hasLongNumber ((((s.dropWhile Text.isBlank).dropWhile (· == '=')).dropWhile
      Text.isBlank).takeWhile isBareValueChar) = true → hasLongNumber s = true :=
    hasLongNumber_of_isInfix ((List.takeWhile_prefix _).isInfix.trans hstart.isInfix)
  have hnone : hasLongNumber [] = false := by decide
  unfold readValue? at h
  dsimp only at h
  split at h
  · cases h
  split at h
  · cases h
    rw [hnone] at hvalue
    cases hvalue
  · rename_i c cs hc
    split at h
    · split at h
      · rename_i inner behind hcut
        have hinner : inner <+: cs := Text.cut?_prefix hcut
        have hcs : cs <:+ s := (List.suffix_cons c cs).trans (hc ▸ hstart)
        cases h
        exact hasLongNumber_of_isInfix (hinner.isInfix.trans hcs.isInfix) hvalue
      · split at h
        · cases h
          rw [hnone] at hvalue
          cases hvalue
        · split at h
          · cases h
          · cases h
            exact hbare (hasLongNumber_of_cons (by decide) hvalue)
    · cases h
      exact hbare hvalue

/-- The value of an attribute stands behind the first character of its name. -/
theorem hasLongNumber_of_readAttribute {c : Char} {cs : List Char}
    (hvalue : hasLongNumber (readAttribute c cs).1.value = true) : hasLongNumber cs = true := by
  unfold readAttribute at hvalue
  dsimp only at hvalue
  split at hvalue
  · rename_i hread
    exact hasLongNumber_of_isSuffix (List.dropWhile_suffix _)
      (hasLongNumber_of_readValue? hread hvalue)
  · cases hvalue

/-- The values of the attributes of a tag stand in the text that they are read from. -/
theorem hasLongNumber_of_readAttributes {last : Char} {s : List Char} {a : Attribute}
    (ha : a ∈ (readAttributes last s).1) (hvalue : hasLongNumber a.value = true) :
    hasLongNumber s = true := by
  fun_induction readAttributes last s with
  | case1 => cases ha
  | case2 => cases ha
  | case3 last c cs h first last' after he others rest hr ih =>
    rw [hr] at ih
    rcases List.mem_cons.1 ha with rfl | ha
    · have hfirst : hasLongNumber (readAttribute c cs).1.value = true := by rwa [he]
      exact hasLongNumber_of_isSuffix (List.suffix_cons c cs)
        (hasLongNumber_of_readAttribute hfirst)
    · have hafter : after <:+ cs := by simpa [he] using readAttribute_suffix c cs
      exact hasLongNumber_of_isSuffix (hafter.trans (List.suffix_cons c cs)) (ih ha)

/-- A tag is refused for a long number in one of its values. -/
theorem hasLongNumber_of_readTag {s : List Char} {why : Refusal} (h : readTag s = .refused why) :
    hasLongNumber s = true := by
  unfold readTag at h
  dsimp only at h
  generalize hgap : skipGap _ (s.dropWhile isTagNameChar) = gap at h
  have hstart : gap.2 <:+ s := by
    rw [← hgap]
    exact (skipGap_suffix _ _).trans (List.dropWhile_suffix _)
  generalize hread : readAttributes gap.1 gap.2 = tail at h
  obtain ⟨attributes, rest⟩ := tail
  dsimp only at h
  split at h
  · cases h
  · split at h
    · rename_i why' hdecoded
      obtain ⟨a, ha, he⟩ := (MadeOf.list attributes).of_error why' hdecoded
      have hvalue : hasLongNumber a.value = true :=
        hasLongNumber_of_decodeValue (map_eq_error_iff.1 he)
      have hmem : a ∈ (readAttributes gap.1 gap.2).1 := by rwa [hread]
      exact hasLongNumber_of_isSuffix hstart (hasLongNumber_of_readAttributes hmem hvalue)
    · split at h <;> cases h

/-! ## Passes -/

/-- What was found does not end the pass by a stop, or by a refusal for a number. -/
def Found.goesOn : Found → Bool
  | .stop _ _ => false
  | .refused (.longNumber _) => false
  | _ => true

theorem goesOn_readAside (cut : Option (List Char × List Char)) :
    (readAside cut).goesOn = true := by
  unfold readAside
  split <;> rfl

theorem goesOn_readClosing (s : List Char) : (readClosing s).goesOn = true := by
  unfold readClosing
  split <;> rfl

/-- A marked section is refused for its status at most. -/
theorem goesOn_readSection (s : List Char) : (readSection s).goesOn = true := by
  unfold readSection
  split
  · rfl
  · dsimp only
    split
    · rfl
    split
    · rfl
    split
    · split <;> rfl
    split
    · exact goesOn_readAside _
    · rfl

/-- What a `<` begins stops the reader only where the text ends, and is refused for a number only if
it is a tag. -/
theorem readMarkup_cases (s : List Char) :
    (readMarkup s).goesOn = true ∨ (s = [] ∧ readMarkup s = .stop [] ['<']) ∨
      ∃ why, readTag s = .refused why ∧ readMarkup s = .refused why := by
  unfold readMarkup
  split
  · exact Or.inr (Or.inl ⟨rfl, rfl⟩)
  · exact Or.inl (goesOn_readClosing _)
  · exact Or.inl (goesOn_readAside _)
  · exact Or.inl (goesOn_readSection _)
  · exact Or.inl (goesOn_readAside _)
  · exact Or.inl (goesOn_readAside _)
  · split
    · split
      · exact Or.inl rfl
      · exact Or.inl rfl
      · exact Or.inl rfl
      · rename_i why htag
        exact Or.inr (Or.inr ⟨why, htag, rfl⟩)
    · exact Or.inl rfl

/-- What a `<` begins is refused for a number only if it holds a long one. -/
theorem hasLongNumber_of_readMarkup {s : List Char} {digits : Nat}
    (h : readMarkup s = .refused (.longNumber digits)) : hasLongNumber s = true := by
  rcases readMarkup_cases s with hon | ⟨-, hstop⟩ | ⟨why, htag, -⟩
  · rw [h] at hon
    cases hon
  · rw [h] at hstop
    cases hstop
  · exact hasLongNumber_of_readTag htag

/-- What an `&` begins is refused for the number that it begins. -/
theorem hasLongNumber_of_readReference {last : Bool} {s : List Char} {why : Refusal}
    (h : readReference last s = .refused why) : hasLongNumber ('&' :: s) = true := by
  unfold readReference at h
  split at h
  · cases h
  · split at h
    · rename_i hnumeral
      split at h
      · cases h
      · rename_i hread
        obtain ⟨hleading, -⟩ := Option.filter_eq_some_iff.1 hnumeral
        exact hasLongNumber_iff.2 ⟨_, List.suffix_rfl, startsLongNumber_of_read hleading hread⟩
    · split at h <;> cases h
  · split at h
    · split at h
      · cases h
      · split at h <;> cases h
    · cases h

/-- So a place of a text is refused for a long number that stands there or behind. -/
theorem hasLongNumber_of_readAt {last : Bool} {c : Char} {s : List Char} {digits : Nat}
    (h : readAt last c s = .refused (.longNumber digits)) : hasLongNumber (c :: s) = true := by
  unfold readAt at h
  by_cases hmarkup : (c == '<') = true
  · rw [if_pos hmarkup] at h
    exact hasLongNumber_of_isSuffix (List.suffix_cons c s) (hasLongNumber_of_readMarkup h)
  · rw [if_neg hmarkup] at h
    by_cases hreference : (c == '&') = true
    · rw [if_pos hreference] at h
      obtain rfl : c = '&' := by simpa using hreference
      exact hasLongNumber_of_readReference h
    · rw [if_neg hreference] at h
      cases h

/-- Where a `<` stops the reader, the text ends behind it. -/
theorem eq_of_readMarkup_stop {s rest : List Char} {found : List Token}
    (h : readMarkup s = .stop found rest) : rest = '<' :: s := by
  rcases readMarkup_cases s with hon | ⟨rfl, hstop⟩ | ⟨why, -, hrefused⟩
  · rw [h] at hon
    cases hon
  · rw [h] at hstop
    cases hstop
    rfl
  · rw [h] at hrefused
    cases hrefused

/-- What a reference stops the reader at is an end of the text from its `&` on. -/
theorem readReference_stop_suffix {last : Bool} {s rest : List Char} {found : List Token}
    (h : readReference last s = .stop found rest) : rest <:+ '&' :: s := by
  unfold readReference at h
  split at h
  · cases h
    exact List.suffix_rfl
  · split at h
    · split at h <;> cases h
    · split at h
      · cases h
        exact (List.suffix_cons _ _).trans (List.suffix_cons _ _)
      · cases h
        exact List.suffix_rfl
  · split at h
    · split at h
      · cases h
      · split at h
        · cases h
          exact List.suffix_cons _ _
        · cases h
          exact List.suffix_rfl
    · cases h

/-- What stops the reader is an end of the text. -/
theorem readAt_stop_suffix {last : Bool} {c : Char} {s rest : List Char} {found : List Token}
    (h : readAt last c s = .stop found rest) : rest <:+ c :: s := by
  unfold readAt at h
  by_cases hmarkup : (c == '<') = true
  · rw [if_pos hmarkup] at h
    obtain rfl : c = '<' := by simpa using hmarkup
    rw [eq_of_readMarkup_stop h]
  · rw [if_neg hmarkup] at h
    by_cases hreference : (c == '&') = true
    · rw [if_pos hreference] at h
      obtain rfl : c = '&' := by simpa using hreference
      exact readReference_stop_suffix h
    · rw [if_neg hreference] at h
      cases h

/-- What a pass goes on with behind the tokens that it finds is an end of the text. -/
theorem readAt_tokens_suffix {last : Bool} {c : Char} {s rest : List Char} {found : List Token}
    (h : readAt last c s = .tokens found rest) : rest <:+ c :: s :=
  (readAt_suffix (congrArg Found.rest? h)).trans (List.suffix_cons c s)

/-- What a pass does not go into is an end of the text. -/
theorem pass_rest_suffix {last : Bool} {raw : Option (List Char)} {s : List Char} {p : Pass}
    (h : pass last raw s = .ok p) : p.rest <:+ s := by
  fun_induction pass last raw s generalizing p with
  | case1 s name hcut =>
    cases h
    exact List.suffix_rfl
  | case2 s name content rest hcut ih =>
    obtain ⟨q, hq, rfl⟩ := map_eq_ok_iff.1 h
    exact (ih hq).trans (cutAt?_suffix (fun _ _ => rawEnd?_suffix) hcut)
  | case3 =>
    cases h
    exact List.suffix_rfl
  | case4 c cs found rest hread ih =>
    obtain ⟨q, hq, rfl⟩ := map_eq_ok_iff.1 h
    exact (ih hq).trans (readAt_tokens_suffix hread)
  | case5 c cs hread hlast ih =>
    obtain ⟨q, hq, rfl⟩ := map_eq_ok_iff.1 h
    exact ((ih hq).trans (giveUp_suffix c cs)).trans (List.suffix_cons c cs)
  | case6 c cs hread hlast =>
    cases h
    exact List.suffix_rfl
  | case7 c cs found rest hread =>
    cases h
    exact readAt_stop_suffix hread
  | case8 c cs why hread => cases h

/-- A pass is refused for a number only if the text holds a long one. -/
theorem hasLongNumber_of_pass {last : Bool} {raw : Option (List Char)} {s : List Char}
    {digits : Nat} (h : pass last raw s = .error (.longNumber digits)) :
    hasLongNumber s = true := by
  fun_induction pass last raw s with
  | case1 => cases h
  | case2 s name content rest hcut ih =>
    exact hasLongNumber_of_isSuffix (cutAt?_suffix (fun _ _ => rawEnd?_suffix) hcut)
      (ih (map_eq_error_iff.1 h))
  | case3 => cases h
  | case4 c cs found rest hread ih =>
    exact hasLongNumber_of_isSuffix (readAt_tokens_suffix hread) (ih (map_eq_error_iff.1 h))
  | case5 c cs hread hlast ih =>
    exact hasLongNumber_of_isSuffix ((giveUp_suffix c cs).trans (List.suffix_cons c cs))
      (ih (map_eq_error_iff.1 h))
  | case6 => cases h
  | case7 => cases h
  | case8 c cs why hread =>
    cases h
    exact hasLongNumber_of_readAt hread

/-- **A fragment is refused for a number only if it holds a long one.** -/
theorem hasLongNumber_of_tree {fragment : String} {digits : Nat}
    (h : tree fragment = .error (.longNumber digits)) : hasLongNumber fragment.toList = true := by
  rcases bind_eq_error_iff.1 (map_eq_error_iff.1 h) with hfirst | ⟨first, hfirst, h⟩
  · exact hasLongNumber_of_pass hfirst
  · -- the second pass reads an end of the text that the first one left
    rcases bind_eq_error_iff.1 h with hsecond | ⟨second, hsecond, h⟩
    · exact hasLongNumber_of_isSuffix (pass_rest_suffix hfirst) (hasLongNumber_of_pass hsecond)
    · cases h

/-! ## A heading whose text is such a number -/

/-- A number of too many digits refuses the fragment. -/
theorem readReference_of_long {last : Bool} {digits : List Char} (rest : List Char)
    (hdigits : ∀ d ∈ digits, Text.isAsciiDigit d = true) (hlong : digitLimit < digits.length) :
    readReference last ('#' :: (digits ++ ';' :: rest)) = .refused (.longNumber digits.length) := by
  have hstop : Text.isAsciiDigit ';' = false := by decide
  have htake := Text.takeWhile_stop hdigits hstop rest
  have hdrop := Text.dropWhile_stop hdigits hstop rest
  have hnumeral :
      leadingNumeral? (digits ++ ';' :: rest) = some (.decimal digits, ';' :: rest) := by
    cases digits with
    | nil => cases hlong
    | cons d digits =>
      have hd := hdigits d List.mem_cons_self
      unfold leadingNumeral?
      split
      · rename_i h
        cases h
        cases hd
      · rename_i h
        cases h
        cases hd
      · rw [leadingDigits?, htake, hdrop]
        rfl
  have hread : readNumeral? (digits ++ ';' :: rest) = some (.decimal digits, ';' :: rest) := by
    rw [readNumeral?, hnumeral]
    rfl
  have hlimit : (Numeral.decimal digits).read = .error (.longNumber digits.length) := if_pos hlong
  simp only [readReference, hread, hlimit]

/-- A heading whose text is a decimal number. -/
def numberHeading (digits : List Char) : List Char :=
  '<' :: 'h' :: '4' :: '>' :: '&' :: '#' :: (digits ++ [';', '<', '/', 'h', '4', '>'])

/-- **A heading with a number of too many digits has no tokens.** -/
theorem tokens_numberHeading {digits : List Char}
    (hdigits : ∀ d ∈ digits, Text.isAsciiDigit d = true) (hlong : digitLimit < digits.length) :
    tokens (numberHeading digits) = .error (.longNumber digits.length) := by
  have hnumber : pass false none ('&' :: '#' :: (digits ++ [';', '<', '/', 'h', '4', '>'])) =
      .error (.longNumber digits.length) :=
    pass_of_refused (@readReference_of_long false _ _ hdigits hlong)
  have hopening : readAt false '<' (numberHeading digits).tail =
      .tokens [.opening ['h', '4'] [] false]
        ('&' :: '#' :: (digits ++ [';', '<', '/', 'h', '4', '>'])) :=
    @readMarkup_of_name 'h' ['4'] (by decide) (by decide) _
  have hpass : pass false none (numberHeading digits) = .error (.longNumber digits.length) := by
    refine (pass_of_tokens hopening).trans ?_
    show (pass false none _).map _ = _
    rw [hnumber]
    rfl
  unfold tokens
  rw [hpass]
  rfl

end ApiBindings.Markup
