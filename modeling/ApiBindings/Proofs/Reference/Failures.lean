import ApiBindings.Proofs.Generation
/-!
# Lines that fail

A line that cannot be read changes nothing, with two exceptions: a heading closes what is open
before its text is read, and the phrase of a type is put into its row before the type is read from
it. What can keep a line from being read is a number with too many digits, on any line whose text is
read, the target of a link, where the line is read with its links, and too many levels of a phrase.
Main statement: exactly which lines fail and what they leave, and that without such a number and
such a phrase only the first paragraph of a section and the cell that describes a row can fail, and
only with a base (`step_fails`). Neither exception is an empty one (`step_numberHeading`,
`step_deepCell`).
-/

namespace ApiBindings.Reference

/-! ## What is read of a line -/

/-- What is read of a cell: the name and the type of a row without links, its description with them.
A signal is not read, nor is a cell of a row that is full. -/
def Field.reading? (line : String) (f : Field) : Option Reading :=
  match f.name, f.phrase, f.description with
  | none, _, _ => some (.bare line)
  | some _, none, _ => some (.phrase line)
  | some _, some _, none =>
    if line = requiredCell then none
    else if line = optionalCell then none
    else some (.linked line)
  | some _, some _, some _ => none

/-- What is read of a line of some kind, seen from where a scan stands. -/
def Place.reading? (kind : LineKind) (line : String) (p : Place) : Option Reading :=
  match kind, p with
  | .heading, _ => some (.bare line)
  | .paragraph, .inSection sec => if sec.note.isSome then none else some (.linked line)
  | .listItem, .inSection sec => if sec.cases.isNone then none else some (.bare line)
  | .cell, .inRow _ row => row.reading? line
  | _, _ => none

/-- What a scan reads of a line, if it reads anything. -/
def Scan.reading? (o : Options) (s : Scan) (line : String) : Option Reading :=
  (LineKind.ofLine? o.headingTag line).bind fun kind => s.place.reading? kind line

/-! ## What a line does with what is read of it -/

/-- What receives a reading fails as the reading does, and is then as it was. -/
theorem receive_eq_error_iff {σ α : Type} {read : Except Error α} {put : α → σ} {s t : σ}
    {e : Error} : receive s read put = (t, some e) ↔ errorOf? read = some e ∧ t = s := by
  cases read with
  | ok a => simp [receive, errorOf?]
  | error e' => simp [receive, errorOf?, and_comm, eq_comm]

/-- What a cell that fails leaves of a row: a phrase is there though no type can be read from it. -/
def Field.leftBy (line : String) (f : Field) : Field :=
  match f.name, f.phrase, Markup.bareText line with
  | some _, none, .ok phrase => { f with phrase := some phrase }
  | _, _, _ => f

/-- **A row fails to take a cell exactly if what is read of the cell cannot be read.** -/
theorem fill_eq_error_iff {o : Options} {line : String} {f g : Field} {e : Error} :
    f.fill o line = (g, some e) ↔
      (∃ r, f.reading? line = some r ∧ r.error? o = some e) ∧ g = f.leftBy line := by
  obtain ⟨name, phrase, type, description, requirement⟩ := f
  -- in each case there is one reading, or none
  have hone : ∀ r : Reading, (∃ r', some r = some r' ∧ r'.error? o = some e) ↔
      errorOf? (r.outcome o) = some e := by
    intro r
    rw [errorOf?_outcome]
    simp
  unfold Field.fill Field.reading? Field.leftBy
  cases name with
  | none => rw [receive_eq_error_iff, hone]; rfl
  | some name =>
    cases phrase with
    | none =>
      dsimp only
      rw [hone]
      cases hread : Markup.bareText line with
      | error e' =>
        rw [outcome_phrase, hread]
        show (_, some e') = _ ↔ some e' = some e ∧ _
        simp [and_comm, eq_comm]
      | ok phrase =>
        rw [outcome_phrase, hread]
        show _ ↔ errorOf? ((TypeExpr.read o.depth o.aliases phrase).map fun _ => phrase) = _ ∧ _
        rw [errorOf?_map]
        exact receive_eq_error_iff
    | some phrase =>
      cases description with
      | some description => simp
      | none =>
        dsimp only
        by_cases hrequired : line = requiredCell
        · simp [if_pos hrequired]
        · by_cases hoptional : line = optionalCell
          · simp [if_neg hrequired, if_pos hoptional]
          · simp only [if_neg hrequired, if_neg hoptional]
            rw [receive_eq_error_iff, hone]
            rfl

/-- **All that a line can do**: it goes by without a reading and cannot fail, or the scan, which a
heading has left before, receives what is read of it, or the open row takes a cell. -/
theorem take_cases (o : Options) (kind : LineKind) (line : String) (s : Scan) :
    (s.place.reading? kind line = none ∧ ∃ t, s.take o kind line = (t, none)) ∨
      (kind ≠ .cell ∧ ∃ r put, s.place.reading? kind line = some r ∧
        s.take o kind line =
          receive (if kind = .heading then s.leave else s) (r.outcome o) put) ∨
      (kind = .cell ∧ ∃ sec row, s.place = .inRow sec row) := by
  obtain ⟨closed, place, skipped⟩ := s
  -- only four kinds are read, and three of them only where they are awaited
  cases kind with
  | heading => exact Or.inr (Or.inl ⟨by simp, .bare line, _, rfl, rfl⟩)
  | paragraph =>
    cases place with
    | outside => exact Or.inl ⟨rfl, _, rfl⟩
    | inRow sec row => exact Or.inl ⟨rfl, _, rfl⟩
    | inSection sec =>
      unfold Place.reading? Scan.take
      dsimp only
      by_cases hnote : sec.note.isSome = true
      · rw [if_pos hnote, if_pos hnote]
        exact Or.inl ⟨rfl, _, rfl⟩
      · rw [if_neg hnote, if_neg hnote]
        exact Or.inr (Or.inl ⟨by simp, .linked line, _, rfl, rfl⟩)
  | listItem =>
    cases place with
    | outside => exact Or.inl ⟨rfl, _, rfl⟩
    | inRow sec row => exact Or.inl ⟨rfl, _, rfl⟩
    | inSection sec =>
      unfold Place.reading? Scan.take
      dsimp only
      by_cases hcases : sec.cases.isNone = true
      · rw [if_pos hcases, if_pos hcases]
        exact Or.inl ⟨rfl, _, rfl⟩
      · rw [if_neg hcases, if_neg hcases]
        exact Or.inr (Or.inl ⟨by simp, .bare line, _, rfl, rfl⟩)
  | cell =>
    cases place with
    | outside => exact Or.inl ⟨rfl, _, rfl⟩
    | inSection sec => exact Or.inl ⟨rfl, _, rfl⟩
    | inRow sec row => exact Or.inr (Or.inr ⟨rfl, sec, row, rfl⟩)
  | listOpen => cases place <;> exact Or.inl ⟨rfl, _, rfl⟩
  | rowOpen => cases place <;> exact Or.inl ⟨rfl, _, rfl⟩
  | rowClose => cases place <;> exact Or.inl ⟨rfl, _, rfl⟩
  | tableClose => exact Or.inl ⟨rfl, _, rfl⟩

/-- Where a line that fails leaves a scan: a heading has closed what was open, and a cell may have
left the phrase of a type. -/
def Scan.leftBy (kind : LineKind) (line : String) (s : Scan) : Scan :=
  match kind, s.place with
  | .heading, _ => s.leave
  | .cell, .inRow sec row => { s with place := .inRow sec (row.leftBy line) }
  | _, _ => s

/-- **A line fails as what is read of it does.** It then changes nothing, but a heading has closed
what was open, and a cell may have left the phrase of a type. -/
theorem take_eq_error_iff {o : Options} {kind : LineKind} {line : String} {s t : Scan} {e : Error} :
    s.take o kind line = (t, some e) ↔
      (∃ r, s.place.reading? kind line = some r ∧ r.error? o = some e) ∧
        t = s.leftBy kind line := by
  rcases take_cases o kind line s with ⟨hnone, t', htake⟩ | ⟨hcell, r, put, hsome, htake⟩ |
    ⟨rfl, sec, row, hplace⟩
  · simp [hnone, htake]
  · have hleft : s.leftBy kind line = if kind = .heading then s.leave else s := by
      unfold Scan.leftBy
      cases kind <;> first | rfl | exact absurd rfl hcell
    rw [htake, receive_eq_error_iff, errorOf?_outcome, hsome, hleft]
    simp
  · obtain ⟨closed, place, skipped⟩ := s
    obtain rfl : place = .inRow sec row := hplace
    have hfill : ∀ g, row.fill o line = (g, some e) ↔
        (∃ r, row.reading? line = some r ∧ r.error? o = some e) ∧ g = row.leftBy line :=
      fun g => fill_eq_error_iff
    have htake : Scan.take o .cell line ⟨closed, .inRow sec row, skipped⟩ =
        (⟨closed, .inRow sec (row.fill o line).1, skipped⟩, (row.fill o line).2) := rfl
    rw [htake]
    generalize row.fill o line = filled at hfill
    obtain ⟨g, e'⟩ := filled
    constructor
    · intro h
      obtain ⟨rfl, rfl⟩ := Prod.mk.inj h
      obtain ⟨hread, rfl⟩ := (hfill g).1 rfl
      exact ⟨hread, rfl⟩
    · rintro ⟨hread, rfl⟩
      obtain ⟨rfl, rfl⟩ := Prod.mk.inj ((hfill _).2 ⟨hread, rfl⟩)
      rfl

/-- What a line that fails leaves, whatever its kind. -/
def Scan.leftByLine (o : Options) (line : String) (s : Scan) : Scan :=
  match LineKind.ofLine? o.headingTag line with
  | none => s
  | some kind => s.leftBy kind line

/-- The scan of a line of no kind does not fail; any other line is taken by its kind. -/
theorem step_eq_error_iff {o : Options} {s t : Scan} {line : String} {e : Error} :
    s.step o line = (t, some e) ↔
      (∃ r, s.reading? o line = some r ∧ r.error? o = some e) ∧ t = s.leftByLine o line := by
  unfold Scan.step Scan.reading? Scan.leftByLine
  cases LineKind.ofLine? o.headingTag line with
  | none => simp
  | some kind => exact take_eq_error_iff

/-! ## Lines that are read with their links -/

/-- The line is read with its links where the scan stands: it is the first paragraph of the open
section, or the cell that describes the open row. -/
inductive Scan.ReadsLinks (o : Options) (s : Scan) (line : String) : Prop where
  | note (sec : Section)
      (hkind : LineKind.ofLine? o.headingTag line = some .paragraph)
      (hplace : s.place = .inSection sec) (hnote : sec.note = none)
  | description (sec : Section) (row : Field)
      (hkind : LineKind.ofLine? o.headingTag line = some .cell)
      (hplace : s.place = .inRow sec row) (hname : row.name.isSome) (hphrase : row.phrase.isSome)
      (hdescription : row.description = none)
      (hrequired : line ≠ requiredCell) (hoptional : line ≠ optionalCell)

/-- A cell that is read with its links describes its row. -/
theorem eq_of_reading?_linked {line line' : String} {f : Field}
    (h : f.reading? line = some (.linked line')) :
    f.name.isSome ∧ f.phrase.isSome ∧ f.description = none ∧
      line ≠ requiredCell ∧ line ≠ optionalCell := by
  obtain ⟨name, phrase, type, description, requirement⟩ := f
  unfold Field.reading? at h
  cases name with
  | none => cases h
  | some name =>
    cases phrase with
    | none => cases h
    | some phrase =>
      cases description with
      | some description => cases h
      | none =>
        dsimp only at h
        split at h
        · cases h
        · split at h
          · cases h
          · rename_i hrequired hoptional
            exact ⟨rfl, rfl, rfl, hrequired, hoptional⟩

/-- **Only a note and a description are read with their links.** -/
theorem readsLinks_of_reading? {o : Options} {s : Scan} {line line' : String}
    (h : s.reading? o line = some (.linked line')) : s.ReadsLinks o line := by
  obtain ⟨closed, place, skipped⟩ := s
  obtain ⟨kind, hkind, hread⟩ := Option.bind_eq_some_iff.1 h
  cases kind with
  | paragraph =>
    cases place with
    | outside => cases hread
    | inRow sec row => cases hread
    | inSection sec =>
      unfold Place.reading? at hread
      dsimp only at hread
      split at hread
      · cases hread
      · rename_i hnote
        exact .note sec hkind rfl (by simpa using hnote)
  | cell =>
    cases place with
    | outside => cases hread
    | inSection sec => cases hread
    | inRow sec row =>
      obtain ⟨hname, hphrase, hdescription, hrequired, hoptional⟩ := eq_of_reading?_linked hread
      exact .description sec row hkind rfl hname hphrase hdescription hrequired hoptional
  | listItem =>
    cases place with
    | outside => cases hread
    | inRow sec row => cases hread
    | inSection sec =>
      unfold Place.reading? at hread
      dsimp only at hread
      split at hread <;> cases hread
  | _ => cases place <;> cases hread

/-- What is read of a line is the line. -/
theorem line_of_reading? {o : Options} {s : Scan} {line : String} {r : Reading}
    (h : s.reading? o line = some r) : r.line = line := by
  obtain ⟨kind, -, hread⟩ := Option.bind_eq_some_iff.1 h
  unfold Place.reading? Field.reading? at hread
  grind [Reading.line]

/-- Where a link's target is not told there is a base. -/
theorem base_ne_of_linkError? {base : Option String} {as : List (List Markup.Attribute)} {e : Error}
    (h : Markup.linkError? base as = some e) : base.getD "" ≠ "" := by
  intro hbase
  obtain ⟨attributes, -, htarget⟩ := List.exists_of_findSome?_eq_some h
  rw [targetError?_of_noBase hbase] at htarget
  cases htarget

/-! ## Failing lines -/

/-- A line without a number that is too long, and without a phrase that is too deep, fails only for
the target of a link. -/
theorem readsLinks_of_error? {o : Options} {s : Scan} {line : String} {r : Reading} {e : Error}
    (hread : s.reading? o line = some r) (herror : r.error? o = some e)
    (hshort : Markup.numberError? line = none)
    (hflat : s.reading? o line = some (.phrase line) → phraseError? o line = none) :
    o.base.getD "" ≠ "" ∧ s.ReadsLinks o line := by
  have hline := line_of_reading? hread
  cases r with
  | bare line' =>
    obtain rfl : line' = line := hline
    cases hshort.symm.trans herror
  | linked line' =>
    obtain rfl : line' = line := hline
    unfold Reading.error? at herror
    dsimp only at herror
    rw [hshort, Option.none_or] at herror
    exact ⟨base_ne_of_linkError? herror, readsLinks_of_reading? hread⟩
  | phrase line' =>
    obtain rfl : line' = line := hline
    unfold Reading.error? at herror
    dsimp only at herror
    rw [hshort, Option.none_or, hflat hread] at herror
    cases herror

/-- A line that is read with its links leaves the scan as it was if it fails. -/
theorem Scan.ReadsLinks.leftByLine {o : Options} {s : Scan} {line : String}
    (h : s.ReadsLinks o line) : s.leftByLine o line = s := by
  obtain ⟨closed, place, skipped⟩ := s
  unfold Scan.leftByLine
  cases h with
  | note sec hkind hplace =>
    cases hplace
    rw [hkind]
    rfl
  | description sec row hkind hplace _ hphrase =>
    cases hplace
    obtain ⟨phrase, hphrase⟩ := Option.isSome_iff_exists.1 hphrase
    have hrow : row.leftBy line = row := by
      unfold Field.leftBy
      rw [hphrase]
      cases row.name <;> rfl
    rw [hkind]
    show Scan.mk closed (.inRow sec (row.leftBy line)) skipped = _
    rw [hrow]

/-- **Which lines fail, and what they leave.** A line fails exactly if what the scan reads of it
cannot be read, and in the same error. It then leaves the scan as it was, unless it is a heading,
which has closed what was open, or a type whose phrase can be read, which is in its row then, but is
too deep. Where no number in the line is too long and it is not read as a type that is too deep,
there is a base, and the line is the first paragraph of the open section or the cell that describes
the open row. -/
theorem step_fails (o : Options) (s : Scan) (line : String) (e : Error) :
    ((s.step o line).2 = some e ↔
      ∃ r, s.reading? o line = some r ∧ r.error? o = some e) ∧
    ((s.step o line).2 = some e →
      (s.step o line).1 = s.leftByLine o line ∧
        (Markup.numberError? line = none →
          (s.reading? o line = some (.phrase line) → phraseError? o line = none) →
          o.base.getD "" ≠ "" ∧ s.ReadsLinks o line ∧ (s.step o line).1 = s)) := by
  have hfails : ∀ t, s.step o line = (t, some e) ↔ _ := fun t => step_eq_error_iff
  constructor
  · constructor
    · intro herror
      exact ((hfails (s.step o line).1).1 (Prod.ext rfl herror)).1
    · intro hread
      exact congrArg Prod.snd ((hfails _).2 ⟨hread, rfl⟩)
  · intro herror
    obtain ⟨⟨r, hread, hr⟩, hleft⟩ := (hfails (s.step o line).1).1 (Prod.ext rfl herror)
    refine ⟨hleft, ?_⟩
    intro hshort hflat
    obtain ⟨hbase, hlinks⟩ := readsLinks_of_error? hread hr hshort hflat
    exact ⟨hbase, hlinks, hleft.trans hlinks.leftByLine⟩

/-- A row that has its name and its type. -/
def userRow : Scan :=
  ⟨[], .inRow { title := some "User" }
    { name := some "id", phrase := some "Int", type := some (.scalar "Int") }, 0⟩

/-- A link whose target is a bracket fails in the cell that describes the row. -/
theorem step_fails_userRow :
    (userRow.step { base := some "https://a.b/c" } "<td><a href=\"//[\">x</a></td>").2 =
        some .misplacedBrackets ∧
      userRow.ReadsLinks { base := some "https://a.b/c" } "<td><a href=\"//[\">x</a></td>" ∧
      (userRow.step { base := some "https://a.b/c" } "<td><a href=\"//[\">x</a></td>").1 =
        userRow := by
  have herror : (userRow.step { base := some "https://a.b/c" }
      "<td><a href=\"//[\">x</a></td>").2 = some .misplacedBrackets := by decide +kernel
  have hshort : Markup.numberError? "<td><a href=\"//[\">x</a></td>" = none := by decide +kernel
  have hlinked : userRow.reading? { base := some "https://a.b/c" }
      "<td><a href=\"//[\">x</a></td>" = some (.linked "<td><a href=\"//[\">x</a></td>") := by
    decide +kernel
  obtain ⟨-, hlinks, hkept⟩ := ((step_fails _ _ _ _).2 herror).2 hshort fun hphrase => by
    cases hlinked.symm.trans hphrase
  exact ⟨herror, hlinks, hkept⟩

/-! ## A heading that fails -/

/-- **A heading with a number of too many digits fails**, with or without a base, and has closed
what was open. -/
theorem step_numberHeading {o : Options} (ho : o.headingTag = "h4") (s : Scan) {digits : List Char}
    (hdigits : ∀ d ∈ digits, Text.isAsciiDigit d = true)
    (hlong : Markup.digitLimit < digits.length) :
    s.step o (String.ofList (Markup.numberHeading digits)) =
      (s.leave, some (.longNumber digits.length)) := by
  have hkind : LineKind.ofLine? o.headingTag (String.ofList (Markup.numberHeading digits)) =
      some .heading := by
    have htag : "h4".toList = ['h', '4'] := by decide
    have hletters : Text.sameLetter 'h' 'h' = true ∧ Text.sameLetter '4' '4' = true := by decide
    have hopens : opensHeading "h4" (Markup.numberHeading digits) = true := by
      simp [opensHeading, Markup.numberHeading, htag, dropCaseless?, hletters]
    unfold LineKind.ofLine?
    rw [ho, String.toList_ofList, if_pos hopens]
  refine step_eq_error_iff.2
    ⟨⟨.bare (String.ofList (Markup.numberHeading digits)), ?_, ?_⟩, ?_⟩
  · unfold Scan.reading?
    rw [hkind]
    rfl
  · show Markup.numberError? _ = _
    unfold Markup.numberError? Markup.tree
    rw [String.toList_ofList, Markup.tokens_numberHeading hdigits hlong]
    rfl
  · unfold Scan.leftByLine
    rw [hkind]
    rfl

/-- The number 65 behind so many zeros that it cannot be read. -/
def longNumber : List Char := List.replicate 4299 '0' ++ ['6', '5']

theorem length_longNumber : longNumber.length = 4301 := by
  rw [longNumber, List.length_append, List.length_replicate]
  rfl

/-- In an open row the heading fails without any base, and the row is not open any more. -/
theorem step_longNumber_userRow :
    userRow.step {} (String.ofList (Markup.numberHeading longNumber)) =
        (userRow.leave, some (.longNumber 4301)) ∧
      userRow.leave ≠ userRow := by
  have hlast : ['6', '5'].all Text.isAsciiDigit = true := by decide
  have hdigits : ∀ d ∈ longNumber, Text.isAsciiDigit d = true := by
    intro d hd
    rcases List.mem_append.1 hd with hd | hd
    · rw [List.eq_of_mem_replicate hd]
      decide
    · exact List.all_eq_true.1 hlast d hd
  have hlong : Markup.digitLimit < longNumber.length := by
    rw [length_longNumber]
    decide
  constructor
  · have hstep := step_numberHeading (o := {}) rfl userRow hdigits hlong
    have hnumber : (userRow.leave, some (Error.longNumber longNumber.length)) =
        (userRow.leave, some (.longNumber 4301)) := by rw [length_longNumber]
    exact hstep.trans hnumber
  · decide

end ApiBindings.Reference
