import ApiBindings.Proofs.Text.Trimming
/-!
# Lines, indentation and tabs

Indentation and the expansion of tabs both change a text line by line. So they go together with each
other and with putting blocks of lines below one another. Main statements: a text changed line by
line has the changed lines (`lines_mapLines`), blocks below one another are changed block by block
(`mapLines_stacked`), levels of indentation add up (`indent_indent`), and an indented text
whose tabs are expanded can be read back (`outdented_expandTabs_indent`).
-/

namespace ApiBindings.Text

/-! ## Lines of a text -/

theorem lines_ne_nil (s : String) : lines s ≠ [] := by
  simpa [lines] using pieces_ne_nil _ _

/-- No line of a text has a line feed. -/
theorem lineFeed_not_mem_of_mem_lines {s l : String} (h : l ∈ lines s) : '\n' ∉ l.toList := by
  obtain ⟨w, hw, rfl⟩ := List.mem_map.1 h
  rw [String.toList_ofList]
  intro hfeed
  have := not_separator_of_mem_pieces (· == '\n') s.toList w hw '\n' hfeed
  simp at this

/-- The lines of a text, joined by line feeds, are the text. -/
theorem unlines_lines (s : String) : unlines (lines s) = s := by
  rw [← String.toList_inj, unlines, String.toList_intercalate, lines, List.map_map]
  have hpieces : (pieces (· == '\n') s.toList).map (String.toList ∘ String.ofList) =
      pieces (· == '\n') s.toList := by
    simp [Function.comp_def]
  rw [hpieces]
  exact intercalate_pieces '\n' s.toList

theorem unlines_cons (l : String) {ls : List String} (h : ls ≠ []) :
    unlines (l :: ls) = l ++ "\n" ++ unlines ls :=
  String.intercalate_cons_of_ne_nil h

@[simp] theorem unlines_singleton (l : String) : unlines [l] = l := String.intercalate_singleton

/-- A line feed divides the lines of a text. -/
theorem lines_append (s t : String) : lines (s ++ "\n" ++ t) = lines s ++ lines t := by
  have hlist : (s ++ "\n" ++ t).toList = s.toList ++ '\n' :: t.toList := by simp
  rw [lines, hlist, pieces_append_cons (by decide), List.map_append]
  rfl

/-- Lines joined in two parts. -/
theorem unlines_append {ls ms : List String} (hls : ls ≠ []) (hms : ms ≠ []) :
    unlines (ls ++ ms) = unlines ls ++ "\n" ++ unlines ms :=
  String.intercalate_append_of_ne_nil hls hms

/-! ## Changes line by line -/

/-- A text with each of its lines changed. -/
def mapLines (f : String → String) (s : String) : String := unlines ((lines s).map f)

/-- The change puts no line feed into a line. -/
def KeepsLines (f : String → String) : Prop := ∀ l : String, '\n' ∉ l.toList → '\n' ∉ (f l).toList

section Changes

variable {f g : String → String}

/-- **The lines of a changed text** are the changed lines. -/
theorem lines_mapLines (hf : KeepsLines f) (s : String) :
    lines (mapLines f s) = (lines s).map f := by
  refine lines_unlines (by simpa using lines_ne_nil s) ?_
  intro l hl
  obtain ⟨l, hmem, rfl⟩ := List.mem_map.1 hl
  exact hf l (lineFeed_not_mem_of_mem_lines hmem)

/-- One change after another is one change. -/
theorem mapLines_mapLines (hf : KeepsLines f) (s : String) :
    mapLines g (mapLines f s) = mapLines (g ∘ f) s := by
  rw [mapLines, lines_mapLines hf, List.map_map]
  rfl

/-- Changes that do the same to each line do the same to a text. -/
theorem mapLines_congr (h : ∀ l, f l = g l) (s : String) : mapLines f s = mapLines g s :=
  congrArg (mapLines · s) (funext h)

/-- A change that leaves each line as it is changes nothing. -/
theorem mapLines_of_id (h : ∀ l, f l = l) (s : String) : mapLines f s = s := by
  rw [mapLines, List.map_congr_left fun l _ => h l, List.map_id', unlines_lines]

/-- Two changes one after the other. -/
theorem KeepsLines.comp (hf : KeepsLines f) (hg : KeepsLines g) : KeepsLines (g ∘ f) := by
  intro l hl
  exact hg _ (hf l hl)

/-- What stands before a line feed is changed apart from what stands behind it. -/
theorem mapLines_append (s t : String) :
    mapLines f (s ++ "\n" ++ t) = mapLines f s ++ "\n" ++ mapLines f t := by
  unfold mapLines
  rw [lines_append, List.map_append]
  exact unlines_append (by simpa using lines_ne_nil s) (by simpa using lines_ne_nil t)

/-- Blocks joined by line feeds are changed block by block. -/
theorem mapLines_unlines {blocks : List String} (h : blocks ≠ []) :
    mapLines f (unlines blocks) = unlines (blocks.map (mapLines f)) := by
  induction blocks with
  | nil => exact absurd rfl h
  | cons b blocks ih =>
    by_cases hrest : blocks = []
    · subst hrest
      simp
    · rw [unlines_cons b hrest, mapLines_append, ih hrest, List.map_cons,
        unlines_cons _ (by simpa using hrest)]

end Changes

/-! ## Blocks below one another -/

/-- Blocks below one another, each behind a line feed. -/
def stacked (blocks : List String) : String := String.join (blocks.map ("\n" ++ ·))

theorem stacked_cons (b : String) (blocks : List String) :
    stacked (b :: blocks) = "\n" ++ b ++ stacked blocks := by
  rw [stacked, List.map_cons, String.join_cons]
  rfl

/-- Blocks below another one are joined to it by line feeds. -/
theorem append_stacked (b : String) (blocks : List String) :
    b ++ stacked blocks = unlines (b :: blocks) := by
  induction blocks generalizing b with
  | nil => simp [stacked]
  | cons c blocks ih =>
    rw [unlines_cons b (by simp), ← ih, stacked_cons, String.append_assoc, String.append_assoc]

theorem stacked_eq_unlines (blocks : List String) : stacked blocks = unlines ("" :: blocks) := by
  rw [← append_stacked, String.empty_append]

/-- **Blocks below one another are changed block by block**, if an empty line stays empty. -/
theorem mapLines_stacked {f : String → String} (hf : f "" = "") (blocks : List String) :
    mapLines f (stacked blocks) = stacked (blocks.map (mapLines f)) := by
  -- a stack begins with a line feed, so the line above its first block is empty
  have hempty : mapLines f "" = "" := by
    show unlines [f ""] = ""
    rw [hf, unlines_singleton]
  rw [stacked_eq_unlines, stacked_eq_unlines, mapLines_unlines (List.cons_ne_nil _ _),
    List.map_cons, hempty]

/-! ## Indentation -/

/-- A line at a level of indentation. -/
def indentedLine (levels : Int) (l : String) : String :=
  if l.isEmpty then l else String.ofList (List.replicate levels.toNat '\t') ++ l

theorem indent_eq_mapLines (levels : Int) (code : String) :
    indent levels code = mapLines (indentedLine levels) code := rfl

theorem keepsLines_indentedLine (levels : Int) : KeepsLines (indentedLine levels) := by
  intro l hl
  unfold indentedLine
  split
  · exact hl
  · simp [hl]

/-- One level of indentation after another on a line. -/
theorem indentedLine_indentedLine {m n : Int} (hm : 0 ≤ m) (hn : 0 ≤ n) (l : String) :
    indentedLine n (indentedLine m l) = indentedLine (m + n) l := by
  unfold indentedLine
  by_cases hl : l.isEmpty = true
  · simp [hl]
  · have hne : (String.ofList (List.replicate m.toNat '\t') ++ l).isEmpty = false := by
      simpa [String.isEmpty_iff] using fun _ => hl
    rw [if_neg hl, if_neg hl, if_neg (by simp [hne]), ← String.append_assoc, ← String.ofList_append,
      List.replicate_append_replicate, Nat.add_comm n.toNat, Int.toNat_add hm hn]

/-- **Levels of indentation add up.** -/
theorem indent_indent {m n : Int} (hm : 0 ≤ m) (hn : 0 ≤ n) (code : String) :
    indent n (indent m code) = indent (m + n) code := by
  rw [indent_eq_mapLines, indent_eq_mapLines, indent_eq_mapLines,
    mapLines_mapLines (keepsLines_indentedLine m)]
  exact mapLines_congr (indentedLine_indentedLine hm hn) code

/-- Without a level above zero the code stays where it is. -/
theorem indent_of_nonpos {n : Int} (hn : n ≤ 0) (code : String) : indent n code = code := by
  refine mapLines_of_id (fun l => ?_) code
  rw [Int.toNat_of_nonpos hn]
  split
  · rfl
  · exact String.empty_append

/-! ## Tabs -/

theorem expandTabs_append (s t : String) : expandTabs (s ++ t) = expandTabs s ++ expandTabs t := by
  unfold expandTabs
  rw [String.toList_append, List.flatMap_append, String.ofList_append]

/-- Tabs are expanded line by line. -/
theorem expandTabs_unlines (ls : List String) :
    expandTabs (unlines ls) = unlines (ls.map expandTabs) := by
  induction ls with
  | nil => rfl
  | cons l ls ih =>
    by_cases hrest : ls = []
    · subst hrest
      simp
    · have hfeed : expandTabs "\n" = "\n" := by decide +kernel
      rw [unlines_cons l hrest, expandTabs_append, expandTabs_append, hfeed, ih, List.map_cons,
        unlines_cons _ (by simpa using hrest)]

/-- Tabs are expanded block by block. -/
theorem expandTabs_stacked (blocks : List String) :
    expandTabs (stacked blocks) = stacked (blocks.map expandTabs) := by
  have hempty : expandTabs "" = "" := rfl
  rw [stacked_eq_unlines, stacked_eq_unlines, expandTabs_unlines, List.map_cons, hempty]

theorem expandTabs_eq_mapLines (s : String) : expandTabs s = mapLines expandTabs s := by
  rw [mapLines, ← expandTabs_unlines, unlines_lines]

theorem keepsLines_expandTabs : KeepsLines expandTabs := by
  intro l hl hfeed
  unfold expandTabs at hfeed
  rw [String.toList_ofList, List.mem_flatMap] at hfeed
  obtain ⟨c, hc, hmem⟩ := hfeed
  by_cases htab : (c == '\t') = true
  · rw [if_pos htab] at hmem
    exact absurd hmem (by decide)
  · rw [if_neg htab, List.mem_singleton] at hmem
    exact hl (hmem ▸ hc)

/-! ## Indented texts without tabs -/

/-- One level of indentation in a text without tabs. -/
def levelSpaces : String := "    "

/-- A line that is indented once, with its tabs expanded. -/
theorem expandTabs_indentedLine (l : String) :
    expandTabs (indentedLine 1 l) = if l.isEmpty then "" else levelSpaces ++ expandTabs l := by
  unfold indentedLine
  split
  · rename_i hempty
    rw [String.isEmpty_iff.1 hempty]
    rfl
  · rw [expandTabs_append]
    rfl

theorem keepsLines_expandTabs_indentedLine : KeepsLines (expandTabs ∘ indentedLine 1) :=
  (keepsLines_indentedLine 1).comp keepsLines_expandTabs

theorem expandTabs_indent (s : String) :
    expandTabs (indent 1 s) = mapLines (expandTabs ∘ indentedLine 1) s := by
  rw [expandTabs_eq_mapLines, indent_eq_mapLines, mapLines_mapLines (keepsLines_indentedLine 1)]

/-- Every line of an indented text is empty or begins with the spaces of its level. -/
theorem isPrefix_of_mem_lines_expandTabs {s l : String} (h : l ∈ lines (expandTabs (indent 1 s)))
    (hl : l ≠ "") : levelSpaces.toList <+: l.toList := by
  rw [expandTabs_indent, lines_mapLines keepsLines_expandTabs_indentedLine] at h
  obtain ⟨line, -, rfl⟩ := List.mem_map.1 h
  rw [Function.comp_apply, expandTabs_indentedLine] at hl ⊢
  split at hl
  · exact absurd rfl hl
  · rename_i hline
    rw [if_neg hline, String.toList_append]
    exact List.prefix_append _ _

/-- A text without as many characters in front of each line as a level of indentation has. -/
def outdented (s : String) : String :=
  mapLines (fun l => String.ofList (l.toList.drop levelSpaces.length)) s

/-- **An indented text can be read back**: without the spaces of its level it is the text. -/
theorem outdented_expandTabs_indent (s : String) :
    outdented (expandTabs (indent 1 s)) = expandTabs s := by
  rw [outdented, expandTabs_indent, mapLines_mapLines keepsLines_expandTabs_indentedLine,
    expandTabs_eq_mapLines s]
  refine mapLines_congr (fun l => ?_) s
  rw [Function.comp_apply, Function.comp_apply, expandTabs_indentedLine]
  split
  · rename_i hempty
    rw [String.isEmpty_iff.1 hempty]
    rfl
  · rw [String.toList_append]
    have hdrop : (levelSpaces.toList ++ (expandTabs l).toList).drop levelSpaces.length =
        (expandTabs l).toList := List.drop_left
    rw [hdrop, String.ofList_toList]

end ApiBindings.Text
