import ApiBindings.Proofs.Reference.Cursors
import ApiBindings.Proofs.Reference.Reading
import Mathlib.Data.List.Forall2
/-!
# One page under two bases

The base of a page is what its relative links are joined with, and it has a say in notes and
descriptions alone. Two scans of one page under two bases go on side by side: whatever one of them
has, the other has too, and a text in which they differ is read from one line by both. Main
statements: a mark keeps two scans alike (`Scan.Alike.passMark`), and so two scans that return end
alike (`alike_of_scan`).
-/

namespace ApiBindings.Reference

/-! ## What two bases leave the same -/

/-- A text that may hold links, on the page at `b` and on the page at `c`: it is missing on both, or
both times it is read from the same line. -/
inductive ReadTogether (b c : Option String) : Option String → Option String → Prop
  | missing : ReadTogether b c none none
  | line {line first second : String} (hfirst : Markup.linkedText b line = .ok first)
      (hsecond : Markup.linkedText c line = .ok second) :
      ReadTogether b c (some first) (some second)

/-- Both texts are there or both are missing. -/
theorem ReadTogether.isSome_eq {b c first second : Option String}
    (h : ReadTogether b c first second) : first.isSome = second.isSome := by
  cases h <;> rfl

/-- Two fields that differ at most in the text of their description. -/
structure Field.Alike (b c : Option String) (f g : Field) : Prop where
  name_eq : f.name = g.name
  phrase_eq : f.phrase = g.phrase
  type_eq : f.type = g.type
  requirement_eq : f.requirement = g.requirement
  description : ReadTogether b c f.description g.description

/-- Two sections that differ at most in the texts of their notes and descriptions. -/
structure Section.Alike (b c : Option String) (s t : Section) : Prop where
  title_eq : s.title = t.title
  cases_eq : s.cases = t.cases
  note : ReadTogether b c s.note t.note
  fields : List.Forall₂ (Field.Alike b c) s.fields t.fields

/-- Two places that differ at most in such texts. -/
inductive Place.Alike (b c : Option String) : Place → Place → Prop
  | outside : Place.Alike b c .outside .outside
  | inSection {s t : Section} (hsection : Section.Alike b c s t) :
      Place.Alike b c (.inSection s) (.inSection t)
  | inRow {s t : Section} {f g : Field} (hsection : Section.Alike b c s t)
      (hrow : Field.Alike b c f g) : Place.Alike b c (.inRow s f) (.inRow t g)

/-- Two scans that differ at most in such texts. -/
structure Scan.Alike (b c : Option String) (s t : Scan) : Prop where
  closed : List.Forall₂ (Section.Alike b c) s.closed t.closed
  place : Place.Alike b c s.place t.place
  skipped_eq : s.skipped = t.skipped

section Bases

variable {b c : Option String}

theorem Field.Alike.new : Field.Alike b c {} {} := ⟨rfl, rfl, rfl, rfl, .missing⟩

/-- A row more in each of two sections. -/
theorem Section.Alike.addRows {s t : Section} {f g : Field} (h : Section.Alike b c s t)
    (hrow : Field.Alike b c f g) : Section.Alike b c (s.addRows [f]) (t.addRows [g]) where
  title_eq := h.title_eq
  cases_eq := h.cases_eq
  note := h.note
  fields := List.rel_append h.fields (List.Forall₂.cons hrow List.Forall₂.nil)

/-- A place is taken for the same under both bases. -/
theorem Place.Alike.mode_eq {p q : Place} (h : Place.Alike b c p q) : p.mode = q.mode := by
  cases h <;> rfl

/-- The open sections of two such places, if there are any, correspond. -/
theorem Place.Alike.section? {p q : Place} (h : Place.Alike b c p q) :
    List.Forall₂ (Section.Alike b c) p.section?.toList q.section?.toList := by
  cases h with
  | outside => exact List.Forall₂.nil
  | inSection hsection => exact List.Forall₂.cons hsection List.Forall₂.nil
  | inRow hsection hrow => exact List.Forall₂.cons (hsection.addRows hrow) List.Forall₂.nil

/-- The sections of two such scans correspond. -/
theorem Scan.Alike.sections {s t : Scan} (h : Scan.Alike b c s t) :
    List.Forall₂ (Section.Alike b c) s.sections t.sections :=
  List.rel_append h.closed h.place.section?

theorem Scan.Alike.start : Scan.Alike b c Scan.start Scan.start :=
  ⟨List.Forall₂.nil, .outside, rfl⟩

theorem Scan.Alike.leave {s t : Scan} (h : Scan.Alike b c s t) :
    Scan.Alike b c s.leave t.leave :=
  ⟨h.sections, .outside, h.skipped_eq⟩

theorem Scan.Alike.heading {s t : Scan} (h : Scan.Alike b c s t) (title : String) :
    Scan.Alike b c (s.heading title) (t.heading title) := by
  unfold Scan.heading
  by_cases hn : isNarrative title = true
  · rw [if_pos hn, if_pos hn]
    exact ⟨h.closed, h.place, congrArg (· + 1) h.skipped_eq⟩
  · rw [if_neg hn, if_neg hn]
    exact ⟨h.closed, .inSection ⟨rfl, rfl, .missing, List.Forall₂.nil⟩, h.skipped_eq⟩

end Bases

/-! ## Side by side -/

section Steps

variable {o : Options} {base : Option String} {m : Mark}

/-- Two readings of one line without its links are the same. -/
theorem eq_of_bareText {line first second : String} (hfirst : Markup.bareText line = .ok first)
    (hsecond : Markup.bareText line = .ok second) : first = second :=
  Except.ok.inj (hfirst.symm.trans hsecond)

/-- A cell fills the same slot of two rows. -/
theorem Field.Alike.fill {f g f' g' : Field} {line : String} (h : Field.Alike o.base base f g)
    (hf : outcome (f.fill o line) = .ok f')
    (hg : outcome (g.fill { o with base } line) = .ok g') :
    Field.Alike o.base base f' g' := by
  obtain ⟨name, phrase, type, description, requirement⟩ := f
  obtain ⟨name', phrase', type', description', requirement'⟩ := g
  obtain ⟨rfl, rfl, rfl, rfl, hdescription⟩ := h
  cases name with
  | none =>
    obtain ⟨text, htext, rfl⟩ := outcome_receive_eq_ok_iff.1 hf
    obtain ⟨text', htext', rfl⟩ := outcome_receive_eq_ok_iff.1 hg
    obtain rfl := eq_of_bareText htext htext'
    exact ⟨rfl, rfl, rfl, rfl, hdescription⟩
  | some name =>
    cases phrase with
    | none =>
      rw [outcome_fill_of_named _ rfl rfl] at hf hg
      obtain ⟨text, htext, hf⟩ := bind_eq_ok_iff.1 hf
      obtain ⟨text', htext', hg⟩ := bind_eq_ok_iff.1 hg
      obtain rfl := eq_of_bareText htext htext'
      obtain ⟨type, htype, rfl⟩ := map_eq_ok_iff.1 hf
      obtain ⟨type', htype', rfl⟩ := map_eq_ok_iff.1 hg
      obtain rfl := Except.ok.inj (htype.symm.trans htype')
      exact ⟨rfl, rfl, rfl, rfl, hdescription⟩
    | some phrase =>
      -- the slot of the description is open in both rows or in neither
      cases hdescription with
      | line hfirst hsecond =>
        cases hf
        cases hg
        exact ⟨rfl, rfl, rfl, rfl, .line hfirst hsecond⟩
      | missing =>
        simp only [Field.fill] at hf hg
        by_cases hr : line = requiredCell
        · rw [if_pos hr] at hf hg
          cases hf
          cases hg
          exact ⟨rfl, rfl, rfl, rfl, .missing⟩
        · rw [if_neg hr] at hf hg
          by_cases ho : line = optionalCell
          · rw [if_pos ho] at hf hg
            cases hf
            cases hg
            exact ⟨rfl, rfl, rfl, rfl, .missing⟩
          · rw [if_neg ho] at hf hg
            obtain ⟨text, htext, rfl⟩ := outcome_receive_eq_ok_iff.1 hf
            obtain ⟨text', htext', rfl⟩ := outcome_receive_eq_ok_iff.1 hg
            exact ⟨rfl, rfl, rfl, rfl, .line htext htext'⟩

/-- A label is added to the cases of two sections or to those of neither. -/
theorem Section.Alike.addCase {b c : Option String} {s t : Section} (h : Section.Alike b c s t)
    (label : String) : Section.Alike b c (s.addCase label) (t.addCase label) := by
  obtain ⟨title, note, fields, cases⟩ := s
  obtain ⟨title', note', fields', cases'⟩ := t
  obtain ⟨rfl, rfl, hnote, hfields⟩ := h
  unfold Section.addCase
  cases cases with
  | none => exact ⟨rfl, rfl, hnote, hfields⟩
  | some labels =>
    dsimp only
    split <;> exact ⟨rfl, rfl, hnote, hfields⟩

/-- A mark outside of the rows says the same about two sections. -/
theorem Section.Alike.hear {s t s' t' : Section} (h : Section.Alike o.base base s t)
    (hs : s.hear o m = .ok s') (ht : t.hear { o with base } m = .ok t') :
    Section.Alike o.base base s' t' := by
  unfold Section.hear at hs ht
  cases hm : m.kind with
  | paragraph =>
    rw [hm] at hs ht
    dsimp only at hs ht
    rw [← h.note.isSome_eq] at ht
    by_cases hn : s.note.isSome = true
    · rw [if_pos hn] at hs ht
      cases hs
      cases ht
      exact h
    · rw [if_neg hn] at hs ht
      obtain ⟨text, htext, rfl⟩ := map_eq_ok_iff.1 hs
      obtain ⟨text', htext', rfl⟩ := map_eq_ok_iff.1 ht
      exact ⟨h.title_eq, h.cases_eq, .line htext htext', h.fields⟩
  | listItem =>
    rw [hm] at hs ht
    dsimp only at hs ht
    rw [← h.cases_eq] at ht
    by_cases hc : s.cases.isNone = true
    · rw [if_pos hc] at hs ht
      cases hs
      cases ht
      exact h
    · rw [if_neg hc] at hs ht
      obtain ⟨label, hlabel, rfl⟩ := map_eq_ok_iff.1 hs
      obtain ⟨label', hlabel', rfl⟩ := map_eq_ok_iff.1 ht
      obtain rfl := eq_of_bareText hlabel hlabel'
      exact h.addCase label
  | listOpen =>
    rw [hm] at hs ht
    cases hs
    cases ht
    exact ⟨h.title_eq, rfl, h.note, h.fields⟩
  | _ =>
    rw [hm] at hs ht
    cases hs
    cases ht
    exact h

/-- A mark inside of a section moves two places side by side. -/
theorem Place.Alike.advance {p q p' q' : Place} (h : Place.Alike o.base base p q)
    (hp : p.advance o m = .ok p') (hq : q.advance { o with base } m = .ok q') :
    Place.Alike o.base base p' q' := by
  obtain ⟨kind, line⟩ := m
  cases h with
  | outside =>
    have hstay : ∀ o : Options, Place.outside.advance o ⟨kind, line⟩ = .ok .outside := by
      intro o
      cases kind <;> rfl
    cases (hstay _).symm.trans hp
    cases (hstay _).symm.trans hq
    exact .outside
  | inSection hsection =>
    by_cases hm : kind = .rowOpen
    · subst hm
      cases hp
      cases hq
      exact .inRow hsection .new
    · rw [advance_inSection_of_ne _ _ hm] at hp hq
      obtain ⟨s', hs, rfl⟩ := map_eq_ok_iff.1 hp
      obtain ⟨t', ht, rfl⟩ := map_eq_ok_iff.1 hq
      exact .inSection (hsection.hear hs ht)
  | inRow hsection hrow =>
    cases kind with
    | rowOpen =>
      cases hp
      cases hq
      exact .inRow (hsection.addRows hrow) .new
    | rowClose =>
      cases hp
      cases hq
      exact .inSection (hsection.addRows hrow)
    | cell =>
      obtain ⟨f', hf, rfl⟩ := map_eq_ok_iff.1 hp
      obtain ⟨g', hg, rfl⟩ := map_eq_ok_iff.1 hq
      exact .inRow hsection (hrow.fill hf hg)
    | _ =>
      cases hp
      cases hq
      exact .inRow hsection hrow

/-- **A mark keeps two scans alike.** -/
theorem Scan.Alike.passMark {s t s' t' : Scan} (h : Scan.Alike o.base base s t)
    (hs : s.passMark o m = .ok s') (ht : t.passMark { o with base } m = .ok t') :
    Scan.Alike o.base base s' t' := by
  by_cases hheading : m.kind = .heading
  · -- a title is read without its links, so it is one title
    rw [passMark_of_heading _ _ hheading] at hs ht
    obtain ⟨title, htitle, rfl⟩ := map_eq_ok_iff.1 hs
    obtain ⟨title', htitle', rfl⟩ := map_eq_ok_iff.1 ht
    obtain rfl := eq_of_bareText htitle htitle'
    exact h.leave.heading title
  · by_cases hclose : m.kind = .tableClose
    · rw [passMark_of_tableClose _ _ hclose] at hs ht
      cases hs
      cases ht
      exact h.leave
    · have hinner : m.isInner = true := by simp [Mark.isInner, Mark.is, hheading, hclose]
      rw [passMark_of_isInner _ _ hinner] at hs ht
      obtain ⟨p, hp, rfl⟩ := map_eq_ok_iff.1 hs
      obtain ⟨q, hq, rfl⟩ := map_eq_ok_iff.1 ht
      exact ⟨h.closed, h.place.advance hp hq, h.skipped_eq⟩

/-- Several marks keep two scans alike. -/
theorem Scan.Alike.pass {s t s' t' : Scan} {ms : List Mark} (h : Scan.Alike o.base base s t)
    (hs : s.pass o ms = .ok s') (ht : t.pass { o with base } ms = .ok t') :
    Scan.Alike o.base base s' t' := by
  induction ms generalizing s t with
  | nil =>
    cases hs
    cases ht
    exact h
  | cons m ms ih =>
    obtain ⟨u, hu, hs⟩ := bind_eq_ok_iff.1 hs
    obtain ⟨v, hv, ht⟩ := bind_eq_ok_iff.1 ht
    exact ih (h.passMark hu hv) hs ht

end Steps

/-- **The base of a page has no say in what the page is made of.** Two scans of one page that return
under two bases stand in the same mode and have counted as many narrative headings. Their sections
correspond one to one: they agree on titles and cases, have notes or none, and have as many rows,
which correspond one to one; and the rows agree on names, phrases, types and requirements and are
described or not. A note or a description is read from the same line under both bases. -/
theorem alike_of_scan (o : Options) (base : Option String) (text : String) (s t : Scan)
    (hs : scan o text = .ok s) (ht : scan { o with base } text = .ok t) :
    s.place.mode = t.place.mode ∧ s.skipped = t.skipped ∧
      List.Forall₂ (Section.Alike o.base base) s.sections t.sections := by
  rw [scan_eq_pass] at hs ht
  have h : Scan.Alike o.base base s t := Scan.Alike.start.pass hs ht
  exact ⟨h.place.mode_eq, h.skipped_eq, h.sections⟩

/-- A page with a relative link in its note and another one in the description of its row. -/
def rollPage : String :=
  "<h4>Dice</h4>\n<p>See <a href=\"#roll\">roll</a></p>\n<tr>\n<td>to</td>\n<td>Int</td>\n"
    ++ "<td><a href=\"#c\">Chat</a></td>"

/-- The two scans of the page differ, and are alike. -/
theorem alike_of_scan_rollPage :
    ∃ s t, scan {} rollPage = .ok s ∧ scan { base := some "https://a.b/c" } rollPage = .ok t ∧
      s ≠ t ∧ s.place.mode = t.place.mode ∧ s.skipped = t.skipped ∧
      List.Forall₂ (Section.Alike none (some "https://a.b/c")) s.sections t.sections := by
  have hplain : scan {} rollPage = .ok {
      closed := []
      place := .inRow { title := some "Dice", note := some "See roll" }
        { name := some "to", phrase := some "Int", type := some (.scalar "Int")
          description := some "Chat" }
      skipped := 0 } := by decide +kernel
  have hbased : scan { base := some "https://a.b/c" } rollPage = .ok {
      closed := []
      place := .inRow { title := some "Dice", note := some "See [roll](https://a.b/c#roll)" }
        { name := some "to", phrase := some "Int", type := some (.scalar "Int")
          description := some "[Chat](https://a.b/c#c)" }
      skipped := 0 } := by decide +kernel
  exact ⟨_, _, hplain, hbased, by decide, alike_of_scan {} _ rollPage _ _ hplain hbased⟩

end ApiBindings.Reference
