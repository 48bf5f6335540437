import ApiBindings.Proofs.Markup.PlainText
import ApiBindings.Proofs.TypeExpr.Levels
import ApiBindings.Reference.Scan
/-!
# Cells that are too deep

The phrase of a type is put into its row before the type is read from it. Main statement: where the
phrase is a list of lists, and more of them than there is room for, the line fails and leaves a row
with a phrase and without a type (`step_deepCell`).
-/

namespace ApiBindings.Reference

open Markup (textCell)
open TypeExpr (nested listWords)

/-- The type of a list, so many lists deep. -/
def deepPhrase (n : Nat) : List Char := nested n ['X']

/-- The cell with this type. -/
def deepCell (n : Nat) : String := String.ofList (textCell (deepPhrase n))

/-- The phrase is made of plain characters, and no blank stands at its ends. -/
theorem deepPhrase_isPlain (n : Nat) :
    deepPhrase n ≠ [] ∧ (∀ c ∈ deepPhrase n, Markup.isPlain c = true) ∧
      (∀ c, (deepPhrase n).head? = some c → Text.isBlank c = false) ∧
      (deepPhrase n).getLast? = some 'X' := by
  have hfirst : ∀ c, listWords.head? = some c → Text.isBlank c = false := by
    rintro c ⟨⟩
    decide
  have hwords : listWords.all Markup.isPlain = true := by decide
  induction n with
  | zero => simp [deepPhrase, nested, Markup.isPlain]; decide
  | succ n ih =>
    obtain ⟨hne, hplain, -, hlast⟩ := ih
    have hsucc : deepPhrase (n + 1) = listWords ++ deepPhrase n := rfl
    rw [hsucc]
    refine ⟨List.append_ne_nil_of_right_ne_nil _ hne, ?_, hfirst, ?_⟩
    · intro c hc
      rcases List.mem_append.1 hc with hc | hc
      · exact List.all_eq_true.1 hwords c hc
      · exact hplain c hc
    · rw [List.getLast?_append_of_ne_nil _ hne, hlast]

/-- The text of the cell is the phrase. -/
theorem bareText_deepCell (n : Nat) :
    Markup.bareText (deepCell n) = .ok (String.ofList (deepPhrase n)) := by
  obtain ⟨hne, hplain, hfirst, hlast⟩ := deepPhrase_isPlain n
  refine Markup.bareText_textCell hne hplain hfirst ?_
  rw [hlast]
  rintro c ⟨⟩
  decide

/-- The line is a cell. -/
theorem ofLine?_deepCell (n : Nat) : LineKind.ofLine? "h4" (deepCell n) = some .cell := by
  have hheading : opensHeading "h4" (deepCell n).toList = false := by
    have htag : "h4".toList = ['h', '4'] := by decide
    have hletter : Text.sameLetter 'h' 't' = false := by decide
    simp [opensHeading, deepCell, textCell, htag, dropCaseless?, hletter]
  have hrow : deepCell n ≠ "<tr>" ∧ deepCell n ≠ "</tr>" := by
    constructor <;>
    · intro h
      have hlist := congrArg String.toList h
      simp [deepCell, textCell] at hlist
  have hstart : ∀ w, Text.startsWith (deepCell n) w =
      w.toList.isPrefixOf ('<' :: 't' :: 'd' :: '>' :: (deepPhrase n ++ "</td>".toList)) := by
    intro w
    rw [Text.startsWith, deepCell, String.toList_ofList]
    rfl
  simp [LineKind.ofLine?, hheading, hrow, hstart]

/-- **A type that is too deep is half read.** The line fails, and the row has a phrase and no type
behind it. -/
theorem step_deepCell {o : Options} (ho : o.headingTag = "h4")
    (halias : ∀ s, o.aliases.lookup (String.ofList (listWords ++ s)) = none) {n : Nat}
    (hn : o.depth ≤ n) (closed : List Section) (sec : Section) (name : String) (skipped : Nat) :
    Scan.step o ⟨closed, .inRow sec { name := some name }, skipped⟩ (deepCell n) =
      (⟨closed, .inRow sec { name := some name, phrase := some (String.ofList (deepPhrase n)) },
        skipped⟩, some .deepNesting) := by
  have hlevels : ¬ TypeExpr.levels o.aliases (deepPhrase n) ≤ o.depth := by
    have hpos := TypeExpr.levels_pos o.aliases ['X']
    rw [deepPhrase, TypeExpr.levels_nested halias]
    omega
  have hread : TypeExpr.read o.depth o.aliases (String.ofList (deepPhrase n)) =
      .error .deepNesting := by
    rw [TypeExpr.read_eq, String.toList_ofList, if_neg hlevels]
  have hfill : Field.fill o (deepCell n) { name := some name } =
      ({ name := some name, phrase := some (String.ofList (deepPhrase n)) },
        some .deepNesting) := by
    unfold Field.fill Field.fillType
    dsimp only
    rw [bareText_deepCell]
    dsimp only
    rw [hread]
    rfl
  unfold Scan.step
  rw [ho, ofLine?_deepCell]
  unfold Scan.take
  dsimp only
  rw [hfill]

end ApiBindings.Reference
