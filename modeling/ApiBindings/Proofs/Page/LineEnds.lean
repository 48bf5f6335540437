import ApiBindings.Page.Read
import ApiBindings.Proofs.Charset.Utf8
import ApiBindings.Proofs.Files.Changes
/-!
# Line ends of a saved page

The lines of a page may be saved with any of three ends. What is read of them does not show which:
an end becomes a line feed and the lines stay as they are, since no line holds a part of an end and
so none can run into one. Main statements: every end is read as a line feed
(`unifyLineEnds_intercalate`), and lines that were saved in UTF-8 are read again
(`read_of_saved`).
-/

namespace ApiBindings.Page

open Files (Path Tree)

/-! ## Ends and lines -/

/-- The ends that the lines of a page can have. -/
def lineEnds : List String := ["\n", "\r\n", "\r"]

/-- No part of a line end stands in the line. -/
def IsLine (line : String) : Prop := '\n' ∉ line.toList ∧ '\r' ∉ line.toList

instance (line : String) : Decidable (IsLine line) := inferInstanceAs (Decidable (_ ∧ _))

/-- A character other than a carriage return is read as it is. -/
theorem unifyAux_cons (read rest : List Char) {c : Char} (h : c ≠ '\r') :
    unifyAux read (c :: rest) = unifyAux (c :: read) rest := by
  rw [unifyAux]
  · intro rest' hc
    exact absurd hc h
  · exact h

/-- A line is read as it is. -/
theorem unifyAux_line (read rest : List Char) {line : List Char} (h : '\r' ∉ line) :
    unifyAux read (line ++ rest) = unifyAux (line.reverse ++ read) rest := by
  induction line generalizing read with
  | nil => rfl
  | cons c line ih =>
    rw [List.mem_cons, not_or] at h
    rw [List.cons_append, unifyAux_cons _ _ (Ne.symm h.1), ih _ h.2, List.reverse_cons,
      List.append_assoc, List.singleton_append]

/-- An end is read as one line feed, if no line feed behind it belongs to it. -/
theorem unifyAux_lineEnd (read : List Char) {ending : String} {rest : List Char}
    (hending : ending ∈ lineEnds) (hrest : ending = "\r" → rest.head? ≠ some '\n') :
    unifyAux read (ending.toList ++ rest) = unifyAux ('\n' :: read) rest := by
  simp only [lineEnds, List.mem_cons, List.not_mem_nil, or_false] at hending
  rcases hending with rfl | rfl | rfl
  · exact unifyAux_cons read rest (by decide)
  · show unifyAux read ('\r' :: '\n' :: rest) = _
    rw [unifyAux]
  · show unifyAux read ('\r' :: rest) = _
    rw [unifyAux]
    rintro rest' rfl
    exact hrest rfl rfl

/-- Lines with carriage returns between them do not begin with a line feed. -/
theorem head?_intercalate_ne {lines : List (List Char)} (h : ∀ line ∈ lines, '\n' ∉ line) :
    (List.intercalate ['\r'] lines).head? ≠ some '\n' := by
  cases lines with
  | nil => simp
  | cons line lines =>
    rw [List.forall_mem_cons] at h
    intro hhead
    cases lines with
    | nil =>
      rw [List.intercalate_singleton] at hhead
      exact h.1 (List.mem_of_mem_head? hhead)
    | cons line' lines =>
      rw [List.intercalate_cons_cons, List.append_assoc] at hhead
      cases line with
      | nil => exact absurd hhead (by simp)
      | cons c line => exact h.1 (List.mem_of_mem_head? hhead)

/-- Lines are read behind what was read before, with a line feed for each end between them. -/
theorem unifyAux_intercalate (read : List Char) {ending : String} {lines : List (List Char)}
    (hending : ending ∈ lineEnds) (hlines : ∀ line ∈ lines, '\n' ∉ line ∧ '\r' ∉ line) :
    unifyAux read (List.intercalate ending.toList lines) =
      read.reverse ++ List.intercalate ['\n'] lines := by
  induction lines generalizing read with
  | nil => simp [unifyAux]
  | cons line lines ih =>
    rw [List.forall_mem_cons] at hlines
    obtain ⟨⟨-, hline⟩, hlines⟩ := hlines
    cases lines with
    | nil =>
      have hread := unifyAux_line read [] hline
      rw [List.append_nil, unifyAux] at hread
      rw [List.intercalate_singleton, List.intercalate_singleton, hread, List.reverse_append,
        List.reverse_reverse]
    | cons line' lines =>
      -- the line behind a lone carriage return does not make it another end
      have hrest : ending = "\r" →
          (List.intercalate ending.toList (line' :: lines)).head? ≠ some '\n' := by
        rintro rfl
        exact head?_intercalate_ne fun line hline => (hlines line hline).1
      rw [List.intercalate_cons_cons, List.intercalate_cons_cons, List.append_assoc,
        unifyAux_line _ _ hline, unifyAux_lineEnd _ hending hrest, ih _ hlines]
      simp

/-- **Every end is read as a line feed.** -/
theorem unifyLineEnds_intercalate {ending : String} {lines : List String}
    (hending : ending ∈ lineEnds) (hlines : ∀ line ∈ lines, IsLine line) :
    unifyLineEnds (ending.intercalate lines).toList = (Text.unlines lines).toList := by
  unfold unifyLineEnds Text.unlines
  rw [String.toList_intercalate, String.toList_intercalate, unifyAux_intercalate [] hending]
  · rfl
  · intro line hline
    obtain ⟨text, htext, rfl⟩ := List.mem_map.1 hline
    exact hlines text htext

/-! ## Saved lines -/

/-- UTF-8 is what the bytes of a page declare, or they declare nothing that is known. -/
def IsReadAsUtf8 (further : Charset.Registry) (bytes : List UInt8) : Prop :=
  Charset.declared bytes = "utf-8" ∨
    '\x00' ∉ (Charset.declared bytes).toList ∧
      Charset.read? further (Charset.declared bytes) bytes = none

/-- Such a page is read in UTF-8. -/
theorem text_of_isReadAsUtf8 {further : Charset.Registry} (p : Path) {bytes : List UInt8}
    (h : IsReadAsUtf8 further bytes) :
    Saved.text further ⟨p, bytes⟩ =
      .ok (String.ofList (unifyLineEnds (Charset.decodeUtf8 bytes))) := by
  unfold Saved.text Saved.chars? Saved.label
  dsimp only
  rcases h with hlabel | ⟨hnul, hlabel⟩
  · have hutf8 : Charset.ofLabel? "utf-8" = some .utf8 := by decide +kernel
    rw [hlabel, if_neg (by decide), Charset.read?, hutf8]
    rfl
  · rw [if_neg (by simpa using hnul), hlabel]
    rfl

/-- **Reading undoes saving**, whatever further charsets there are. -/
theorem read_of_saved {further : Charset.Registry} {t : Tree} {path ending : String}
    {lines : List String}
    (hending : ending ∈ lineEnds) (hlines : ∀ line ∈ lines, IsLine line)
    (hpath : (Path.ofString path).hasNul = false)
    (hfile : t.read (Path.ofString path) = .ok (Charset.encodeUtf8 (ending.intercalate lines)))
    (hlabel : IsReadAsUtf8 further (Charset.encodeUtf8 (ending.intercalate lines))) :
    read further t path = .ok (Text.unlines lines) := by
  have hload : load t path =
      .ok ⟨Path.ofString path, Charset.encodeUtf8 (ending.intercalate lines)⟩ := by
    unfold load
    dsimp only
    rw [if_neg (by simp [hpath]), hfile]
  unfold read
  rw [bind_eq_ok_iff]
  refine ⟨_, hload, ?_⟩
  rw [text_of_isReadAsUtf8 _ hlabel, Charset.decodeUtf8_encodeUtf8,
    unifyLineEnds_intercalate hending hlines, String.ofList_toList]

/-- Lines with characters of one to four bytes, one of them empty, and a charset that nobody
knows. -/
def savedLines : List String := ["<meta charset=no-such-charset>", "", "é€😀"]

/-- The lines in a file, each two of them with both characters of a line end between them. -/
def savedPage : Tree :=
  Tree.empty.set ["page.html"] (.file (Charset.encodeUtf8 ("\r\n".intercalate savedLines)))

/-- An unknown charset is passed over, and the empty line stays. -/
theorem read_of_saved_savedPage :
    "\r\n" ∈ lineEnds ∧ (∀ line ∈ savedLines, IsLine line) ∧
      (Path.ofString "page.html").hasNul = false ∧
      savedPage.read (Path.ofString "page.html") =
        .ok (Charset.encodeUtf8 ("\r\n".intercalate savedLines)) ∧
      Charset.declared (Charset.encodeUtf8 ("\r\n".intercalate savedLines)) = "no-such-charset" ∧
      IsReadAsUtf8 (fun _ _ => none) (Charset.encodeUtf8 ("\r\n".intercalate savedLines)) ∧
      read (fun _ _ => none) savedPage "page.html" =
        .ok "<meta charset=no-such-charset>\n\né€😀" := by
  have hending : "\r\n" ∈ lineEnds := by decide
  have hlines : ∀ line ∈ savedLines, IsLine line := by decide
  have hpath : (Path.ofString "page.html").hasNul = false := by decide +kernel
  have hfile : savedPage.read (Path.ofString "page.html") =
      .ok (Charset.encodeUtf8 ("\r\n".intercalate savedLines)) := by decide +kernel
  have hdeclared : Charset.declared (Charset.encodeUtf8 ("\r\n".intercalate savedLines)) =
      "no-such-charset" := by decide +kernel
  have hunknown : '\x00' ∉ "no-such-charset".toList ∧
      Charset.ofLabel? "no-such-charset" = none := by decide +kernel
  have hutf8 : IsReadAsUtf8 (fun _ _ => none)
      (Charset.encodeUtf8 ("\r\n".intercalate savedLines)) := by
    unfold IsReadAsUtf8 Charset.read?
    rw [hdeclared, hunknown.2]
    exact Or.inr ⟨hunknown.1, rfl⟩
  have hread := read_of_saved hending hlines hpath hfile hutf8
  exact ⟨hending, hlines, hpath, hfile, hdeclared, hutf8, hread⟩

end ApiBindings.Page
