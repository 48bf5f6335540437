import ApiBindings.Markup.Fragment
import ApiBindings.Proofs.Text.Trimming
/-!
# Plain text

Characters other than `<` and `&` are read as they stand, up to the next tag. Main statement: a cell
around such characters has them as its text (`bareText_textCell`).
-/

namespace ApiBindings.Markup

/-! ## Passes -/

/-- A pass goes on behind the tokens that it finds. -/
theorem pass_of_tokens {last : Bool} {c : Char} {cs rest : List Char} {found : List Token}
    (h : readAt last c cs = .tokens found rest) :
    pass last none (c :: cs) = (pass last (rawAfter found) rest).map (.after found) := by
  rw [pass]
  split
  · rename_i h'
    cases h.symm.trans h'
    rfl
  all_goals
    rename_i h'
    cases h.symm.trans h'

/-- A pass ends where the fragment is refused. -/
theorem pass_of_refused {last : Bool} {c : Char} {cs : List Char} {why : Refusal}
    (h : readAt last c cs = .refused why) : pass last none (c :: cs) = .error why := by
  rw [pass]
  split
  case h_4 h' =>
    cases h.symm.trans h'
    rfl
  all_goals
    rename_i h'
    cases h.symm.trans h'

/-- A pass over nothing finds nothing. -/
theorem pass_nil (last : Bool) : pass last none [] = .ok ⟨[], none, []⟩ := by
  rw [pass]

/-- Plain characters up to a tag are one token. -/
theorem pass_of_plain {last : Bool} {text : List Char} (hne : text ≠ [])
    (hplain : ∀ c ∈ text, isPlain c = true) (rest : List Char) :
    pass last none (text ++ '<' :: rest) =
      (pass last none ('<' :: rest)).map (.after [.text text]) := by
  cases text with
  | nil => exact absurd rfl hne
  | cons c cs =>
    have hc : isPlain c = true := hplain c List.mem_cons_self
    have hcs : ∀ d ∈ cs, isPlain d = true := fun d hd => hplain d (List.mem_cons_of_mem c hd)
    have hread : readAt last c (cs ++ '<' :: rest) = .tokens [.text (c :: cs)] ('<' :: rest) := by
      obtain ⟨hlt, hamp⟩ : c ≠ '<' ∧ c ≠ '&' := by simpa [isPlain] using hc
      have hstop : isPlain '<' = false := rfl
      simp [readAt, hlt, hamp, Text.takeWhile_stop hcs hstop, Text.dropWhile_stop hcs hstop]
    exact pass_of_tokens hread

/-! ## Tags -/

/-- A tag without attributes ends where its name does. -/
theorem readTag_of_name {name : List Char} (hname : ∀ c ∈ name, isTagNameChar c = true)
    (rest : List Char) :
    readTag (name ++ '>' :: rest) = .tag (Text.lower name) [] false rest := by
  have hstop : isTagNameChar '>' = false := by decide
  have hblank : Text.isBlank '>' = false := by decide
  have hgap : skipGap (name.getLastD '<') ('>' :: rest) = (name.getLastD '<', '>' :: rest) := by
    simp [skipGap, hblank]
  have hnone : readAttributes (name.getLastD '<') ('>' :: rest) = ([], '>' :: rest) := by
    simp [readAttributes]
  have hfinished : isUnfinished ('>' :: rest) = false := rfl
  simp only [readTag, Text.takeWhile_stop hname hstop, Text.dropWhile_stop hname hstop, hgap,
    hnone, hfinished]
  rfl

/-- It is one token. -/
theorem readMarkup_of_name {c : Char} {cs : List Char} (hc : Text.isAsciiLetter c = true)
    (hname : (c :: cs).all isTagNameChar = true) (rest : List Char) :
    readMarkup (c :: cs ++ '>' :: rest) =
      .tokens [.opening (Text.lower (c :: cs)) [] false] rest := by
  have htag := readTag_of_name (List.all_eq_true.1 hname) rest
  rw [List.cons_append] at htag ⊢
  unfold readMarkup
  split
  -- a letter begins neither a closing tag nor a declaration nor an instruction
  case h_7 heq =>
    obtain ⟨rfl, -⟩ := List.cons.inj heq
    rw [if_pos hc, htag]
  case h_1 heq => cases heq
  all_goals
    rename_i heq
    obtain ⟨rfl, -⟩ := List.cons.inj heq
    cases hc

/-! ## Cells -/

/-- A cell with a text in it. -/
def textCell (text : List Char) : List Char :=
  '<' :: 't' :: 'd' :: '>' :: (text ++ ['<', '/', 't', 'd', '>'])

section Cells

variable {text : List Char} (hne : text ≠ []) (hplain : ∀ c ∈ text, isPlain c = true)

include hne hplain

/-- A cell around plain characters is three tokens. -/
theorem tokens_textCell :
    tokens (textCell text) =
      .ok [.opening ['t', 'd'] [] false, .text text, .closing ['t', 'd']] := by
  have hopening : readAt false '<' (textCell text).tail =
      .tokens [.opening ['t', 'd'] [] false] (text ++ ['<', '/', 't', 'd', '>']) :=
    @readMarkup_of_name 't' ['d'] (by decide) (by decide) _
  have hclosing : pass false none ['<', '/', 't', 'd', '>'] =
      .ok ⟨[.closing ['t', 'd']], none, []⟩ := by
    have hread : readAt false '<' ['/', 't', 'd', '>'] = .tokens [.closing ['t', 'd']] [] := by
      decide
    refine (pass_of_tokens hread).trans ?_
    show (pass false none []).map _ = _
    rw [pass_nil]
    rfl
  have hpass : pass false none (textCell text) =
      .ok ⟨[.opening ['t', 'd'] [] false, .text text, .closing ['t', 'd']], none, []⟩ := by
    refine (pass_of_tokens hopening).trans ?_
    show (pass false none (text ++ ['<', '/', 't', 'd', '>'])).map _ = _
    rw [pass_of_plain hne hplain, hclosing]
    rfl
  unfold tokens
  rw [hpass]
  show (do let second ← pass true none []; _) = _
  rw [pass_nil]
  rfl

/-- **The text of a cell around plain characters is these characters**, where no blank stands at
either end of them. -/
theorem bareText_textCell (hfirst : ∀ c, text.head? = some c → Text.isBlank c = false)
    (hlast : ∀ c, text.getLast? = some c → Text.isBlank c = false) :
    bareText (String.ofList (textCell text)) = .ok (String.ofList text) := by
  have htree : tree (String.ofList (textCell text)) =
      .ok [.element ['t', 'd'] [] [.text true (collapse text)]] := by
    unfold tree
    rw [String.toList_ofList, tokens_textCell hne hplain]
    rfl
  have hcollapse : collapse text = text := by
    refine if_neg fun hall => ?_
    obtain ⟨c, cs, rfl⟩ := List.exists_cons_of_ne_nil hne
    have hc : isCollapsible c = true := List.all_eq_true.1 hall c List.mem_cons_self
    have hblank : [' ', '\n', '\t', '\x0c', '\r'].all Text.isBlank = true := by decide
    have hcblank := List.all_eq_true.1 hblank c (List.contains_iff_mem.1 hc)
    rw [hfirst c rfl] at hcblank
    cases hcblank
  have hshown : shownTexts [.element ['t', 'd'] [] [.text true (collapse text)]] = text := by
    simp [shownTexts, Node.shownText, hcollapse]
  unfold bareText textBy
  rw [htree]
  show Except.ok (Text.trim (String.ofList (shownTexts _))) = _
  rw [hshown, Text.trim, String.toList_ofList, Text.trimmed_eq_self hfirst hlast]

end Cells

end ApiBindings.Markup
