import ApiBindings.Proofs.Reference.Reading
/-!
# Pages put together

A heading closes all that is open, so what stands before it has no effect on what is read behind it
but for the sections and the headings counted there. Main statement: the scan of two texts, the
second of which begins with a heading, is made of their scans, and lines without a heading do not
count behind the end of a table or a narrative heading (`scan_of_joined`).
-/

namespace ApiBindings.Reference

/-! ## Lines of joined texts -/

/-- The lines of two texts on lines of their own. -/
theorem pageLines_join (a b : String) :
    pageLines (a ++ "\n" ++ b) = pageLines a ++ pageLines b := by
  have hjoin : (a ++ "\n" ++ b).toList = a.toList ++ '\n' :: b.toList := by
    simp
  unfold pageLines Text.lines
  rw [hjoin, Text.pieces_append_cons (by decide), List.map_append, List.map_append]

/-- The marks of some lines before others. -/
theorem marks_append (tag : String) (lines others : List String) :
    marks tag (lines ++ others) = marks tag lines ++ marks tag others :=
  List.filterMap_append

/-- A scan goes on into a second text from where the first text has led it. -/
theorem scan_join (o : Options) (a b : String) :
    scan o (a ++ "\n" ++ b)
      = (scan o a >>= fun s => s.pass o (marks o.headingTag (pageLines b))) := by
  rw [scan_eq_pass, scan_eq_pass, pageLines_join, marks_append, pass_append]

/-! ## Scans behind scans -/

/-- What a scan would be if all that another one has read stood before it. -/
def Scan.behind (s t : Scan) : Scan :=
  { closed := s.sections ++ t.closed, place := t.place, skipped := s.skipped + t.skipped }

/-- The sections of both scans, one after the other. -/
theorem sections_behind (s t : Scan) : (s.behind t).sections = s.sections ++ t.sections :=
  List.append_assoc _ _ _

/-- To leave a section it does not matter what stands before. -/
theorem leave_behind (s t : Scan) : (s.behind t).leave = s.behind t.leave := by
  unfold Scan.leave
  rw [sections_behind]
  rfl

/-- To open a section it does not matter what stands before. -/
theorem heading_behind (title : String) (s t : Scan) :
    (s.behind t).heading title = s.behind (t.heading title) := by
  unfold Scan.heading
  split <;> rfl

/-- One mark moves a scan in the same way, whatever stands before. -/
theorem passMark_behind (o : Options) (s t : Scan) (m : Mark) :
    (s.behind t).passMark o m = (t.passMark o m).map s.behind := by
  by_cases hheading : m.kind = .heading
  · rw [passMark_of_heading o _ hheading, passMark_of_heading o _ hheading, map_map_except]
    congr 1
    funext title
    rw [leave_behind, heading_behind]
  · by_cases hclose : m.kind = .tableClose
    · rw [passMark_of_tableClose o _ hclose, passMark_of_tableClose o _ hclose, leave_behind]
      rfl
    · have hinner : m.isInner = true := by simp [Mark.isInner, Mark.is, hheading, hclose]
      rw [passMark_of_isInner o _ hinner, passMark_of_isInner o _ hinner, map_map_except]
      rfl

/-- Several marks move a scan in the same way, whatever stands before. -/
theorem pass_behind (o : Options) (s t : Scan) (ms : List Mark) :
    (s.behind t).pass o ms = (t.pass o ms).map s.behind := by
  induction ms generalizing t with
  | nil => rfl
  | cons m ms ih =>
    rw [pass_cons, pass_cons, passMark_behind]
    cases t.passMark o m with
    | error e => rfl
    | ok u => exact ih u

/-- From a heading on nothing counts that is open. -/
theorem pass_of_heading (o : Options) (s : Scan) {m : Mark} (h : m.kind = .heading)
    (ms : List Mark) : s.pass o (m :: ms) = (Scan.start.pass o (m :: ms)).map s.behind := by
  have hopen : s.passMark o m = (Scan.start.passMark o m).map s.behind := by
    rw [passMark_of_heading o _ h, passMark_of_heading o _ h, map_map_except]
    congr 1
    funext title
    rw [← heading_behind]
    -- behind `s` a scan that has read nothing is `s` outside of its section
    congr 1
    simp [Scan.behind, Scan.leave, Scan.start, Scan.sections, Place.section?]
  rw [pass_cons, pass_cons, hopen]
  cases Scan.start.passMark o m with
  | error e => rfl
  | ok u => exact pass_behind o s u ms

/-! ## Texts that begin with a heading -/

/-- The first line of the text that matters is a heading. -/
def OpensWithHeading (o : Options) (text : String) : Prop :=
  ∃ m ms, marks o.headingTag (pageLines text) = m :: ms ∧ m.kind = .heading

/-- The scan of a text and a second one that begins with a heading is made of their scans. -/
theorem scan_join_of_heading {o : Options} (a : String) {b : String} (h : OpensWithHeading o b) :
    scan o (a ++ "\n" ++ b) = (scan o a >>= fun s => (scan o b).map s.behind) := by
  obtain ⟨m, ms, hmarks, hm⟩ := h
  rw [scan_join, scan_eq_pass o b, hmarks]
  congr 1
  funext s
  exact pass_of_heading o s hm ms

/-- The scan of the two texts fails exactly if one of theirs does. -/
theorem scan_join_eq_error_iff {o : Options} (a : String) {b : String}
    (h : OpensWithHeading o b) :
    (∃ e, scan o (a ++ "\n" ++ b) = .error e) ↔
      (∃ e, scan o a = .error e) ∨ ∃ e, scan o b = .error e := by
  rw [scan_join_of_heading a h]
  cases scan o a with
  | error e => exact ⟨fun _ => Or.inl ⟨e, rfl⟩, fun _ => ⟨e, rfl⟩⟩
  | ok s =>
    cases scan o b with
    | error e => exact ⟨fun _ => Or.inr ⟨e, rfl⟩, fun _ => ⟨e, rfl⟩⟩
    | ok t =>
      constructor
      · rintro ⟨e, he⟩
        cases he
      · rintro (⟨e, he⟩ | ⟨e, he⟩) <;> cases he

/-! ## Lines that do not count -/

/-- The line closes a table, or is a heading whose text is narrative. -/
def LeavesOutside (o : Options) (line : String) : Prop :=
  LineKind.ofLine? o.headingTag line = some .tableClose ∨
    (LineKind.ofLine? o.headingTag line = some .heading ∧
      ∃ title, Markup.bareText line = .ok title ∧ isNarrative title = true)

/-- Behind such a line a scan is outside of every section. -/
theorem place_of_leavesOutside {o : Options} {a line : String}
    (hlast : (pageLines a).getLast? = some line) (hline : LeavesOutside o line) {s : Scan}
    (h : scan o a = .ok s) : s.place = .outside := by
  obtain ⟨lines, hlines⟩ := List.getLast?_eq_some_iff.1 hlast
  rw [scan_eq_pass, hlines, marks_append] at h
  obtain ⟨t, -, h⟩ := bind_eq_ok_iff.1 ((pass_append o _ _ _).symm.trans h)
  rcases hline with hclose | ⟨hheading, title, htitle, hnarrative⟩
  · have hmark : marks o.headingTag [line] = [⟨.tableClose, line⟩] := by
      simp [marks, hclose]
    rw [hmark, pass_cons, passMark_of_tableClose o t rfl] at h
    cases h
    rfl
  · have hmark : marks o.headingTag [line] = [⟨.heading, line⟩] := by
      simp [marks, hheading]
    rw [hmark, pass_cons, passMark_of_heading o t rfl, htitle] at h
    cases h
    show (t.leave.heading title).place = .outside
    unfold Scan.heading
    rw [if_pos hnarrative]
    rfl

/-- No line of the text is a heading. -/
def HasNoHeading (o : Options) (text : String) : Prop :=
  ∀ line ∈ pageLines text, LineKind.ofLine? o.headingTag line ≠ some .heading

/-- No mark of such a text is a heading. -/
theorem is_heading_of_hasNoHeading {o : Options} {text : String} (h : HasNoHeading o text) :
    ∀ m ∈ marks o.headingTag (pageLines text), m.is .heading = false := by
  intro m hm
  obtain ⟨line, hline, hmap⟩ := List.mem_filterMap.1 hm
  obtain ⟨kind, hkind, rfl⟩ := Option.map_eq_some_iff.1 hmap
  have hne := h line hline
  rw [hkind] at hne
  simpa [Mark.is] using hne

/-- Behind the end of a table or a narrative heading lines without a heading change nothing. -/
theorem scan_join_of_hasNoHeading {o : Options} {a line block : String}
    (hlast : (pageLines a).getLast? = some line) (hline : LeavesOutside o line)
    (hblock : HasNoHeading o block) : scan o (a ++ "\n" ++ block) = scan o a := by
  rw [scan_join]
  cases h : scan o a with
  | error e => rfl
  | ok s =>
    obtain ⟨closed, place, skipped⟩ := s
    obtain rfl := place_of_leavesOutside hlast hline h
    exact pass_outside o closed skipped _ (is_heading_of_hasNoHeading hblock)

/-! ## Joined pages -/

/-- **How pages are put together.** Where a second text begins with a heading, the scan of both
texts fails exactly if one of theirs fails, and otherwise it has the sections of both, counts the
narrative headings of both, and stands where the scan of the second text does. Where a text ends
with the end of a table or a narrative heading, lines without a heading behind it change nothing,
whatever follows them. -/
theorem scan_of_joined (o : Options) :
    (∀ a b, OpensWithHeading o b →
      ((∃ e, scan o (a ++ "\n" ++ b) = .error e) ↔
        (∃ e, scan o a = .error e) ∨ ∃ e, scan o b = .error e) ∧
      ∀ s t, scan o a = .ok s → scan o b = .ok t →
        ∃ u, scan o (a ++ "\n" ++ b) = .ok u ∧ u.sections = s.sections ++ t.sections ∧
          u.skipped = s.skipped + t.skipped ∧ u.place = t.place) ∧
    ∀ a line block rest, (pageLines a).getLast? = some line → LeavesOutside o line →
      HasNoHeading o block →
        scan o (a ++ "\n" ++ block) = scan o a ∧
        scan o (a ++ "\n" ++ block ++ "\n" ++ rest) = scan o (a ++ "\n" ++ rest) := by
  constructor
  · intro a b hb
    refine ⟨scan_join_eq_error_iff a hb, ?_⟩
    intro s t hs ht
    refine ⟨s.behind t, ?_, sections_behind s t, rfl, rfl⟩
    rw [scan_join_of_heading a hb, hs, ht]
    rfl
  · intro a line block rest hlast hline hblock
    have hskip := scan_join_of_hasNoHeading hlast hline hblock
    refine ⟨hskip, ?_⟩
    rw [scan_join, hskip, ← scan_join]

/-- A page that ends in an open row. -/
def openPage : String := "<h4>Chat</h4>\n<tr>\n<td>id</td>"

/-- A page whose only heading is narrative. -/
def narrativePage : String := "<h4>Recent changes.</h4>"

/-- A paragraph, a row and the end of a table. -/
def rowBlock : String := "<p>Not a note</p>\n<tr>\n<td>id</td>\n</table>"

/-- A page of one section. -/
def userPage : String := "<h4>User</h4>\n<p>A user</p>"

/-- The open row ends where the next page begins, and the block does not count. -/
theorem scan_of_joined_userPage :
    (∃ u, scan {} (openPage ++ "\n" ++ userPage) = .ok u ∧
      u.sections = [
        { title := some "Chat", fields := [{ name := some "id" }] },
        { title := some "User", note := some "A user" }] ∧ u.skipped = 0) ∧
    scan {} (narrativePage ++ "\n" ++ rowBlock ++ "\n" ++ userPage)
      = scan {} (narrativePage ++ "\n" ++ userPage) := by
  have hopens : OpensWithHeading {} userPage :=
    ⟨⟨.heading, "<h4>User</h4>"⟩, [⟨.paragraph, "<p>A user</p>"⟩], by decide +kernel, rfl⟩
  have hopen : scan {} openPage = .ok {
      closed := []
      place := .inRow { title := some "Chat" } { name := some "id" }
      skipped := 0 } := by decide +kernel
  have huser : scan {} userPage = .ok {
      closed := []
      place := .inSection { title := some "User", note := some "A user" }
      skipped := 0 } := by decide +kernel
  have hlast : (pageLines narrativePage).getLast? = some narrativePage := by decide +kernel
  have houtside : LeavesOutside {} narrativePage :=
    Or.inr ⟨by decide +kernel, "Recent changes.", by decide +kernel, by decide⟩
  have hblock : HasNoHeading {} rowBlock := by
    unfold HasNoHeading
    decide +kernel
  constructor
  · obtain ⟨u, hu, hsections, hskipped, -⟩ :=
      ((scan_of_joined {}).1 openPage userPage hopens).2 _ _ hopen huser
    exact ⟨u, hu, hsections, hskipped⟩
  · exact ((scan_of_joined {}).2 narrativePage narrativePage rowBlock userPage hlast houtside
      hblock).2

end ApiBindings.Reference
