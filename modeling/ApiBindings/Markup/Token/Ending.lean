import ApiBindings.Text.CharClass
/-!
# Ends of constructs

Where comments, marked sections and raw stretches end. Main statement: what stands behind the
first end is an end of the text (`cutAt?_suffix`), and a shorter one where the end itself has
characters (`length_lt_of_cutAt?`).
-/

namespace ApiBindings.Markup

/-- The text behind the mark, if nothing but blanks comes before it. -/
def blankThen? (mark : Char) (s : List Char) : Option (List Char) :=
  match s.dropWhile Text.isBlank with
  | [] => none
  | c :: cs => if c == mark then some cs else none

/-- `-->`, with blanks before the last character. -/
def commentEnd? : List Char → Option (List Char)
  | '-' :: '-' :: rest => blankThen? '>' rest
  | _ => none

/-- `]]>`, with blanks between the characters. -/
def sectionEnd? : List Char → Option (List Char)
  | ']' :: rest => (blankThen? ']' rest).bind (blankThen? '>')
  | _ => none

/-- `]>`, with blanks between the characters. -/
def conditionEnd? : List Char → Option (List Char)
  | ']' :: rest => blankThen? '>' rest
  | _ => none

/-- `</name>`, with blanks around the name and letters of either case. -/
def rawEnd? (name : List Char) : List Char → Option (List Char)
  | '<' :: '/' :: rest =>
    let start := rest.dropWhile Text.isBlank
    if (start.take name.length).map Text.asciiLower == name then
      blankThen? '>' (start.drop name.length)
    else none
  | _ => none

/-- What stands before and after the first end of a construct. -/
def cutAt? (ending? : List Char → Option (List Char)) :
    List Char → Option (List Char × List Char)
  | [] => none
  | c :: cs =>
    match ending? (c :: cs) with
    | some rest => some ([], rest)
    | none => (cutAt? ending? cs).map fun (before, after) => (c :: before, after)

theorem blankThen?_suffix {mark : Char} {s rest : List Char}
    (h : blankThen? mark s = some rest) : rest <:+ s := by
  unfold blankThen? at h
  split at h
  · simp at h
  · rename_i c cs hc
    split at h
    · obtain rfl := by simpa using h
      exact (List.suffix_cons c cs).trans (hc ▸ List.dropWhile_suffix _)
    · simp at h

theorem commentEnd?_suffix {s rest : List Char} (h : commentEnd? s = some rest) : rest <:+ s := by
  unfold commentEnd? at h
  split at h
  · exact ((blankThen?_suffix h).trans (List.suffix_cons _ _)).trans (List.suffix_cons _ _)
  · simp at h

theorem sectionEnd?_suffix {s rest : List Char} (h : sectionEnd? s = some rest) : rest <:+ s := by
  unfold sectionEnd? at h
  split at h
  · obtain ⟨t, ht, hr⟩ := Option.bind_eq_some_iff.1 h
    exact ((blankThen?_suffix hr).trans (blankThen?_suffix ht)).trans (List.suffix_cons _ _)
  · simp at h

theorem conditionEnd?_suffix {s rest : List Char} (h : conditionEnd? s = some rest) :
    rest <:+ s := by
  unfold conditionEnd? at h
  split at h
  · exact (blankThen?_suffix h).trans (List.suffix_cons _ _)
  · simp at h

theorem rawEnd?_suffix {name s rest : List Char} (h : rawEnd? name s = some rest) : rest <:+ s := by
  unfold rawEnd? at h
  split at h
  · dsimp only at h
    split at h
    · exact ((((blankThen?_suffix h).trans (List.drop_suffix _ _)).trans
        (List.dropWhile_suffix _)).trans (List.suffix_cons _ _)).trans (List.suffix_cons _ _)
    · simp at h
  · simp at h

/-- The end of a raw stretch is shorter than the text from its closing tag on. -/
theorem length_lt_of_rawEnd? {name s rest : List Char} (h : rawEnd? name s = some rest) :
    rest.length < s.length := by
  unfold rawEnd? at h
  split at h
  · dsimp only at h
    split at h
    · have h₁ := (blankThen?_suffix h).length_le
      rename_i r _
      have h₂ : (r.dropWhile Text.isBlank).length ≤ r.length :=
        (List.dropWhile_suffix _).length_le
      simp only [List.length_drop, List.length_cons] at h₁ ⊢
      omega
    · simp at h
  · simp at h

theorem cutAt?_suffix {ending? : List Char → Option (List Char)}
    (hend : ∀ t r, ending? t = some r → r <:+ t) {s before after : List Char}
    (h : cutAt? ending? s = some (before, after)) : after <:+ s := by
  induction s generalizing before with
  | nil => simp [cutAt?] at h
  | cons c s ih =>
    unfold cutAt? at h
    split at h
    · rename_i hr
      obtain ⟨_, rfl⟩ := by simpa using h
      exact hend _ _ hr
    · obtain ⟨⟨b, a⟩, hb, he⟩ := Option.map_eq_some_iff.1 h
      obtain ⟨_, rfl⟩ := by simpa using he
      exact (ih hb).trans (List.suffix_cons c s)

theorem length_lt_of_cutAt? {ending? : List Char → Option (List Char)}
    (hend : ∀ t r, ending? t = some r → r.length < t.length) {s before after : List Char}
    (h : cutAt? ending? s = some (before, after)) : after.length < s.length := by
  induction s generalizing before with
  | nil => simp [cutAt?] at h
  | cons c s ih =>
    unfold cutAt? at h
    split at h
    · rename_i hr
      obtain ⟨_, rfl⟩ := by simpa using h
      exact hend _ _ hr
    · obtain ⟨⟨b, a⟩, hb, he⟩ := Option.map_eq_some_iff.1 h
      obtain ⟨_, rfl⟩ := by simpa using he
      exact Nat.lt_succ_of_lt (ih hb)

end ApiBindings.Markup
