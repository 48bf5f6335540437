import ApiBindings.Bindings.Class
import ApiBindings.Proofs.Markup.Links
import ApiBindings.Proofs.Reference.Bases
import ApiBindings.Proofs.Reference.ThirdCell
/-!
# Which fields may be left out

Where the third cell of a row is no signal, the first word of the description decides whether the
field may be left out, and the description is read with its links. A link that leads somewhere puts
a bracket before that word or into it, and whether it leads somewhere can depend on the base of the
page. Main statements: what the cells of a row say on a page with a given base
(`isOptional_of_ofCells`), and exactly when two bases make a difference for it, and so for what the
generated code declares (`isOptional_eq_iff_of_bases`).
-/

namespace ApiBindings.Reference

open Bindings (Names propertyName wireName propertyLines parameterLine defaultText)

/-! ## What the cells of a row say -/

/-- The word that the description of a field begins with which may be left out. -/
def optionalWord : String := "Optional"

/-- The cells of a row let the field be left out, on the page at `base`: by their last signal, or
else by the first word of the description, or else because there is none. -/
def mayBeLeftOut (base : Option String) (cells : List String) : Bool :=
  match Requirement.ofCells (cells.drop 2) with
  | .required => false
  | .optional => true
  | .unstated => (descriptionCell (cells.drop 2)).all (Markup.opensWith optionalWord base)

/-- **What the cells of a row say** is what is known of the field. -/
theorem isOptional_of_ofCells {o : Options} {cells : List String} {f : Field}
    (h : Field.ofCells o cells = .ok f) : f.isOptional = mayBeLeftOut o.base cells := by
  obtain ⟨-, -, -, hdescription, hrequirement⟩ := of_ofCells h
  obtain ⟨name, phrase, type, description, requirement⟩ := f
  unfold Field.isOptional mayBeLeftOut
  dsimp only at hdescription hrequirement ⊢
  rw [hrequirement]
  cases Requirement.ofCells (cells.drop 2) with
  | required => rfl
  | optional => rfl
  | unstated =>
    cases hcell : descriptionCell (cells.drop 2) with
    | none =>
      rw [hcell] at hdescription
      cases hdescription
      rfl
    | some cell =>
      rw [hcell, mapM_some_eq_map] at hdescription
      obtain ⟨text, htext, rfl⟩ := map_eq_ok_iff.1 hdescription
      have hword : optionalWord.toList.all (!Text.isBlank ·) = true := by decide +kernel
      have hbracket : '[' ∉ optionalWord.toList := by decide
      refine Markup.startsWith_of_linkedText ?_ hbracket htext
      intro c hc
      simpa using List.all_eq_true.1 hword c hc

/-- The base of the page decides only by the beginning of a description. -/
theorem mayBeLeftOut_eq_iff (b c : Option String) (cells : List String) :
    mayBeLeftOut b cells = mayBeLeftOut c cells ↔
      (Requirement.ofCells (cells.drop 2) = .unstated →
        ∀ cell, descriptionCell (cells.drop 2) = some cell →
          Markup.opensWith optionalWord b cell = Markup.opensWith optionalWord c cell) := by
  unfold mayBeLeftOut
  cases Requirement.ofCells (cells.drop 2) with
  | required => simp
  | optional => simp
  | unstated => cases descriptionCell (cells.drop 2) <;> simp

/-- What may be left out on the page at a base may be left out without a base. -/
theorem mayBeLeftOut_none {base : Option String} {cells : List String}
    (h : mayBeLeftOut base cells = true) : mayBeLeftOut none cells = true := by
  unfold mayBeLeftOut at h ⊢
  cases hr : Requirement.ofCells (cells.drop 2) with
  | required =>
    rw [hr] at h
    exact h
  | optional => rfl
  | unstated =>
    rw [hr] at h
    dsimp only at h ⊢
    cases hcell : descriptionCell (cells.drop 2) with
    | none => rfl
    | some cell =>
      rw [hcell] at h
      exact Markup.opensWith_none h

/-! ## What is declared of a field -/

/-- Cells fill the same slots of two rows. -/
theorem Field.Alike.fillAll {o : Options} {base : Option String} {f g f' g' : Field}
    {cells : List String} (h : Field.Alike o.base base f g) (hf : f.fillAll o cells = .ok f')
    (hg : g.fillAll { o with base } cells = .ok g') : Field.Alike o.base base f' g' := by
  induction cells generalizing f g with
  | nil =>
    cases hf
    cases hg
    exact h
  | cons cell cells ih =>
    rw [fillAll_cons] at hf hg
    obtain ⟨f₁, hf₁, hf⟩ := bind_eq_ok_iff.1 hf
    obtain ⟨g₁, hg₁, hg⟩ := bind_eq_ok_iff.1 hg
    exact ih (h.fill hf₁ hg₁) hf hg

/-- The same cells read under two bases give two fields that differ at most in the text of their
description. -/
theorem alike_of_ofCells {o : Options} {base : Option String} {cells : List String} {f g : Field}
    (hf : Field.ofCells o cells = .ok f) (hg : Field.ofCells { o with base } cells = .ok g) :
    Field.Alike o.base base f g := by
  rw [← fillAll_new] at hf hg
  exact Field.Alike.new.fillAll hf hg

/-- The type of a field and its default in the generated code. -/
def typeAndDefault (n : Names) (f : Field) : String := n.fieldType f ++ defaultText f

/-- Of two fields of one type, one that may be left out is declared at greater length. -/
theorem typeAndDefault_eq_iff (n : Names) {f g : Field} (htype : f.type = g.type) :
    typeAndDefault n f = typeAndDefault n g ↔ f.isOptional = g.isOptional := by
  unfold typeAndDefault Names.fieldType defaultText
  rw [htype]
  generalize (g.type.map n.type).getD "" = type
  -- whatever the type is, the wrapped one is longer
  have hlonger : "Optional[" ++ type ++ "]" ++ " = None" ≠ type ++ "" := by
    intro h
    have hlength := congrArg String.length h
    rw [String.length_append, String.length_append, String.length_append,
      String.length_append] at hlength
    have hword : "Optional[".length = 9 := rfl
    have hnothing : "".length = 0 := rfl
    omega
  constructor
  · intro h
    cases hf : f.isOptional <;> cases hg : g.isOptional
    · rfl
    · rw [hf, hg] at h
      exact absurd h.symm hlonger
    · rw [hf, hg] at h
      exact absurd h hlonger
    · rfl
  · intro h
    rw [h]

/-- Two such fields have the same names, and are declared in the same way exactly if both may be
left out or neither: as a property below its description, and as a parameter. -/
theorem Field.Alike.declared {b c : Option String} {f g : Field} (h : Field.Alike b c f g)
    (n : Names) :
    propertyName f = propertyName g ∧ wireName f = wireName g ∧
      ((propertyLines n f).drop 2 = (propertyLines n g).drop 2 ↔ f.isOptional = g.isOptional) ∧
      (parameterLine n f = parameterLine n g ↔ f.isOptional = g.isOptional) := by
  have hname : propertyName f = propertyName g := by rw [propertyName, propertyName, h.name_eq]
  refine ⟨hname, by rw [wireName, wireName, h.name_eq], ?_, ?_⟩
  · have hproperty : ∀ f, (propertyLines n f).drop 2 =
        ["\t" ++ propertyName f ++ ": " ++ typeAndDefault n f] := by
      intro f
      rw [typeAndDefault, ← String.append_assoc]
      rfl
    rw [hproperty, hproperty, hname, ← typeAndDefault_eq_iff n h.type_eq, List.singleton_inj,
      String.append_right_inj]
  · have hparameter : ∀ f, parameterLine n f =
        "\t" ++ propertyName f ++ ": " ++ typeAndDefault n f ++ "," := by
      intro f
      rw [typeAndDefault, ← String.append_assoc]
      rfl
    rw [hparameter, hparameter, hname, ← typeAndDefault_eq_iff n h.type_eq,
      String.append_left_inj, String.append_right_inj]

/-! ## Two bases -/

/-- **When the base has a say in what may be left out.** Two scans of one page that return under two
bases have as many rows as the page. A row may be left out under both bases or under neither exactly
if a signal decides for it, or its description begins with the word both times or neither time; a
link that leads somewhere before or in the word keeps it from doing so. Without a base no row loses
what it has with one. The names of the two rows agree, and what is declared of them below their
descriptions agrees exactly if both may be left out or neither. -/
theorem isOptional_eq_iff_of_bases (o : Options) (base : Option String) (text : String)
    (s t : Scan) (hs : scan o text = .ok s) (ht : scan { o with base } text = .ok t) :
    s.rows.length = (pageRows o text).length ∧ t.rows.length = (pageRows o text).length ∧
      ∀ (i : Nat) (cells : List String) (f g : Field), (pageRows o text)[i]? = some cells →
        s.rows[i]? = some f → t.rows[i]? = some g →
        (f.isOptional = g.isOptional ↔
          (Requirement.ofCells (cells.drop 2) = .unstated →
            ∀ cell, descriptionCell (cells.drop 2) = some cell →
              Markup.opensWith optionalWord o.base cell =
                Markup.opensWith optionalWord base cell)) ∧
        (base = none → f.isOptional = true → g.isOptional = true) ∧
        ∀ n : Names, propertyName f = propertyName g ∧ wireName f = wireName g ∧
          ((propertyLines n f).drop 2 = (propertyLines n g).drop 2 ↔
            f.isOptional = g.isOptional) ∧
          (parameterLine n f = parameterLine n g ↔ f.isOptional = g.isOptional) := by
  have hrows := forall₂_pageRows hs
  have hrows' : List.Forall₂ (fun cells g => Field.ofCells { o with base } cells = .ok g)
      (pageRows o text) t.rows := forall₂_pageRows ht
  refine ⟨hrows.length_eq.symm, hrows'.length_eq.symm, ?_⟩
  intro i cells f g hcells hf hg
  obtain ⟨hi, rfl⟩ := List.getElem?_eq_some_iff.1 hcells
  obtain ⟨hi', rfl⟩ := List.getElem?_eq_some_iff.1 hf
  obtain ⟨hi'', rfl⟩ := List.getElem?_eq_some_iff.1 hg
  have hfirst := hrows.get hi hi'
  have hsecond := hrows'.get hi hi''
  simp only [List.get_eq_getElem] at hfirst hsecond
  rw [isOptional_of_ofCells hfirst, isOptional_of_ofCells hsecond]
  refine ⟨mayBeLeftOut_eq_iff _ _ _, ?_, ?_⟩
  · rintro rfl h
    exact mayBeLeftOut_none h
  · intro n
    have hdeclared := (alike_of_ofCells hfirst hsecond).declared n
    rwa [isOptional_of_ofCells hfirst, isOptional_of_ofCells hsecond] at hdeclared

/-- A page with a row whose description begins with a relative link, and one that begins with the
word before a link. -/
def chatPage : String :=
  "<h4>Chat</h4>\n<tr>\n<td>id</td>\n<td>Int</td>\n<td><a href=\"#opt\">Optional</a>. Id</td>\n"
    ++ "<tr>\n<td>to</td>\n<td>Int</td>\n<td>Optional. See <a href=\"#to\">to</a></td>"

/-- With a base the first of the two rows may not be left out, and the second may still be. -/
theorem isOptional_eq_iff_chatPage :
    ∃ s t, scan {} chatPage = .ok s ∧ scan { base := some "https://a.b/c" } chatPage = .ok t ∧
      ∃ f f' g g', s.rows = [f, f'] ∧ t.rows = [g, g'] ∧ f.isOptional ≠ g.isOptional ∧
        f'.isOptional = g'.isOptional := by
  have hmarks : marks "h4" (pageLines chatPage) = [
      ⟨.heading, "<h4>Chat</h4>"⟩, ⟨.rowOpen, "<tr>"⟩, ⟨.cell, "<td>id</td>"⟩,
      ⟨.cell, "<td>Int</td>"⟩, ⟨.cell, "<td><a href=\"#opt\">Optional</a>. Id</td>"⟩,
      ⟨.rowOpen, "<tr>"⟩, ⟨.cell, "<td>to</td>"⟩, ⟨.cell, "<td>Int</td>"⟩,
      ⟨.cell, "<td>Optional. See <a href=\"#to\">to</a></td>"⟩] := by decide +kernel
  have hplain : scan {} chatPage = .ok {
      closed := []
      place := .inRow
        { title := some "Chat"
          fields := [
            { name := some "id", phrase := some "Int", type := some (.scalar "Int")
              description := some "Optional. Id" }] }
        { name := some "to", phrase := some "Int", type := some (.scalar "Int")
          description := some "Optional. See to" }
      skipped := 0 } := by
    rw [scan_eq_pass, hmarks]
    decide +kernel
  have hbased : scan { base := some "https://a.b/c" } chatPage = .ok {
      closed := []
      place := .inRow
        { title := some "Chat"
          fields := [
            { name := some "id", phrase := some "Int", type := some (.scalar "Int")
              description := some "[Optional](https://a.b/c#opt). Id" }] }
        { name := some "to", phrase := some "Int", type := some (.scalar "Int")
          description := some "Optional. See [to](https://a.b/c#to)" }
      skipped := 0 } := by
    rw [scan_eq_pass, hmarks]
    decide +kernel
  have hrows : pageRows {} chatPage =
      [["<td>id</td>", "<td>Int</td>", "<td><a href=\"#opt\">Optional</a>. Id</td>"],
        ["<td>to</td>", "<td>Int</td>", "<td>Optional. See <a href=\"#to\">to</a></td>"]] := by
    rw [pageRows, hmarks]
    decide +kernel
  obtain ⟨-, -, hrow⟩ := isOptional_eq_iff_of_bases {} (some "https://a.b/c") chatPage _ _
    hplain hbased
  rw [hrows] at hrow
  have hfirst := (hrow 0 _ _ _ rfl rfl rfl).1
  have hsecond := (hrow 1 _ _ _ rfl rfl rfl).1
  refine ⟨_, _, hplain, hbased, _, _, _, _, rfl, rfl, ?_, ?_⟩
  · rw [Ne, hfirst]
    intro h
    exact absurd (h (by decide) _ rfl) (by decide +kernel)
  · rw [hsecond]
    intro _ cell hcell
    cases hcell
    decide +kernel

end ApiBindings.Reference
