import ApiBindings.Markup.CharRef
import ApiBindings.Text.Affix
import ApiBindings.Text.Casing
/-!
# Opening tags

The name and the attributes of an opening tag, read leniently: quotes may be missing, slashes
count as blanks, and what is no attribute at all ends the tag as text. Main statement: what
follows a tag is an end of the text (`readTag_rest_suffix`).
-/

namespace ApiBindings.Markup

/-- An attribute; one without a value has the empty value. -/
structure Attribute where
  name : List Char
  value : List Char
  deriving DecidableEq, Repr

/-- The attribute with the references in its value replaced. -/
def Attribute.decoded (a : Attribute) : Except Refusal Attribute :=
  (decodeValue a.value).map fun value => { a with value }

/-! ## Characters of tags -/

/-- A character that may continue the name of a tag. -/
def isTagNameChar (c : Char) : Bool :=
  !(['\t', '\n', '\r', '\x0c', ' ', '/', '>', '\x00'].contains c)

/-- A character that may continue the name of an attribute. -/
def isAttributeNameChar (c : Char) : Bool :=
  !(Text.isBlank c || c == '/' || c == '=' || c == '>')

/-- A character that may stand in a value without quotes. -/
def isBareValueChar (c : Char) : Bool := !(Text.isBlank c || c == '>')

/-- An attribute may begin behind a quote, a blank or a slash. -/
def endsItem (c : Char) : Bool := c == '\'' || c == '"' || c == '/' || Text.isBlank c

/-- The text behind blanks and behind slashes that do not end the tag, and the last character passed
over, which is `last` if there is none. -/
def skipGap (last : Char) : List Char → Char × List Char
  | [] => (last, [])
  | c :: cs =>
    if Text.isBlank c || (c == '/' && cs.head? != some '>') then skipGap c cs else (last, c :: cs)

theorem skipGap_suffix (last : Char) (s : List Char) : (skipGap last s).2 <:+ s := by
  induction s generalizing last with
  | nil => simp [skipGap]
  | cons c s ih =>
    unfold skipGap
    split
    · exact (ih c).trans (List.suffix_cons c s)
    · exact List.suffix_refl _

/-! ## Values -/

/-- A value behind its equals signs, with the character before what follows it. A value that opens
a quote and never closes it is empty if a blank stands before the quote; else the last of several
equals signs belongs to it, and a single one leaves no value. -/
def readValue? (s : List Char) : Option (List Char × Char × List Char) :=
  let signs := (s.dropWhile Text.isBlank).takeWhile (· == '=')
  let behind := (s.dropWhile Text.isBlank).dropWhile (· == '=')
  let start := behind.dropWhile Text.isBlank
  if signs.isEmpty then none
  else
    match start with
    | [] => some ([], '=', [])
    | c :: cs =>
      if c == '\'' || c == '"' then
        match Text.cut? [c] cs with
        | some (value, after) => some (value, c, after)
        | none =>
          if behind.length != start.length then some ([], ' ', start)
          else if signs.length == 1 then none
          else
            some ('=' :: start.takeWhile isBareValueChar, '=', start.dropWhile isBareValueChar)
      else some (start.takeWhile isBareValueChar, '=', start.dropWhile isBareValueChar)

theorem readValue?_suffix {s value after : List Char} {last : Char}
    (h : readValue? s = some (value, last, after)) : after <:+ s := by
  have dw := fun (p : Char → Bool) (l : List Char) => List.dropWhile_suffix (l := l) p
  have start : ((s.dropWhile Text.isBlank).dropWhile (· == '=')).dropWhile Text.isBlank <:+ s :=
    ((dw _ _).trans (dw _ _)).trans (dw _ _)
  unfold readValue? at h
  dsimp only at h
  split at h
  · simp at h
  split at h
  · obtain ⟨_, _, rfl⟩ := by simpa using h
    exact List.nil_suffix
  · rename_i c cs hc
    have tail : cs <:+ s := (List.suffix_cons c cs).trans (hc ▸ start)
    split at h
    · split at h
      · rename_i hq
        obtain ⟨_, _, rfl⟩ := by simpa using h
        exact (Text.cut?_suffix hq).trans tail
      · split at h
        · obtain ⟨_, _, rfl⟩ := by simpa using h
          exact hc ▸ start
        · split at h
          · simp at h
          · obtain ⟨_, _, rfl⟩ := by simpa using h
            exact (dw _ _).trans (hc ▸ start)
    · obtain ⟨_, _, rfl⟩ := by simpa using h
      exact (dw _ _).trans (hc ▸ start)

/-! ## Attributes -/

/-- One attribute whose first character is `c`: its value if it has one, and the gap behind it. -/
def readAttribute (c : Char) (cs : List Char) : Attribute × Char × List Char :=
  let name := c :: cs.takeWhile isAttributeNameChar
  let rest := cs.dropWhile isAttributeNameChar
  match readValue? rest with
  | some (value, last, after) => (⟨Text.lower name, value⟩, skipGap last after)
  | none => (⟨Text.lower name, []⟩, skipGap (name.getLastD c) rest)

theorem readAttribute_suffix (c : Char) (cs : List Char) : (readAttribute c cs).2.2 <:+ cs := by
  have rest := List.dropWhile_suffix (l := cs) isAttributeNameChar
  unfold readAttribute
  dsimp only
  split
  · rename_i h
    exact ((skipGap_suffix _ _).trans (readValue?_suffix h)).trans rest
  · exact (skipGap_suffix _ _).trans rest

/-- The attributes of a tag and what follows the last of them; `last` is the character before. -/
def readAttributes (last : Char) (s : List Char) : List Attribute × List Char :=
  match s with
  | [] => ([], [])
  | c :: cs =>
    if !endsItem last || Text.isBlank c || c == '/' || c == '>' then ([], c :: cs)
    else
      match _h : readAttribute c cs with
      | (first, last, after) =>
        let (others, rest) := readAttributes last after
        (first :: others, rest)
termination_by s.length
decreasing_by
  have := (readAttribute_suffix c cs).length_le
  simp only [_h] at this
  simp only [List.length_cons]
  omega

theorem readAttributes_suffix (last : Char) (s : List Char) :
    (readAttributes last s).2 <:+ s := by
  fun_induction readAttributes last s with
  | case1 => exact List.nil_suffix
  | case2 => exact List.suffix_refl _
  | case3 last c cs h first last' after he others rest hr ih =>
    have : after <:+ cs := by simpa [he] using readAttribute_suffix c cs
    rw [hr] at ih
    exact (ih.trans this).trans (List.suffix_cons c cs)

/-! ## Tags -/

/-- What a `<` and the letter behind it begin. -/
inductive TagRead where
  /-- A whole tag; a self-closed one ends in `/>`. -/
  | tag (name : List Char) (attributes : List Attribute) (selfClosed : Bool) (rest : List Char)
  /-- A piece of text, because a character follows that no tag can hold. -/
  | stray (text rest : List Char)
  /-- The text ends, or runs into an equals sign, before the tag does. -/
  | incomplete
  /-- A value for which the whole fragment is refused. -/
  | refused (why : Refusal)

/-- What follows the attributes of a tag leaves open where the tag ends. -/
def isUnfinished : List Char → Bool
  | [] => true
  | '/' :: '>' :: _ => false
  | c :: _ => c == '=' || c == '/' || Text.isAsciiLetter c

/-- The tag that follows a `<`, where `s` begins with a letter. Its values are decoded once it has
an end. -/
def readTag (s : List Char) : TagRead :=
  let name := s.takeWhile isTagNameChar
  let (last, start) := skipGap (name.getLastD '<') (s.dropWhile isTagNameChar)
  let (attributes, rest) := readAttributes last start
  if isUnfinished rest then .incomplete
  else
    match attributes.mapM Attribute.decoded with
    | .error why => .refused why
    | .ok attributes =>
      match rest with
      | '>' :: after => .tag (Text.lower name) attributes false after
      | '/' :: '>' :: after => .tag (Text.lower name) attributes true after
      | _ => .stray ('<' :: s.take (s.length - rest.length)) rest

theorem readTag_rest_suffix (s : List Char) :
    (∀ name attributes selfClosed rest,
      readTag s = .tag name attributes selfClosed rest → rest <:+ s) ∧
    (∀ text rest, readTag s = .stray text rest → rest <:+ s) := by
  unfold readTag
  dsimp only
  generalize hg : skipGap _ (s.dropWhile isTagNameChar) = gap
  have start : gap.2 <:+ s := by
    rw [← hg]; exact (skipGap_suffix _ _).trans (List.dropWhile_suffix _)
  have rest := (readAttributes_suffix gap.1 gap.2).trans start
  generalize readAttributes gap.1 gap.2 = tail at rest
  obtain ⟨attributes, r⟩ := tail
  dsimp only at rest ⊢
  split
  · simp
  split
  · simp
  split
  · refine ⟨?_, by simp⟩
    rintro _ _ _ _ ⟨⟩
    exact (List.suffix_cons _ _).trans rest
  · refine ⟨?_, by simp⟩
    rintro _ _ _ _ ⟨⟩
    exact ((List.suffix_cons _ _).trans (List.suffix_cons _ _)).trans rest
  · refine ⟨by simp, ?_⟩
    rintro _ _ ⟨⟩
    exact rest

end ApiBindings.Markup
