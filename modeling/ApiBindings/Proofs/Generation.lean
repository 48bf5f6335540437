import ApiBindings.Generator
import ApiBindings.Proofs.Bindings.Depth
import ApiBindings.Proofs.Definition.Names
import ApiBindings.Proofs.Markup.LongNumbers
import ApiBindings.Proofs.Markup.Refusals
import ApiBindings.Proofs.Reference.LinesRead
import ApiBindings.Proofs.Text.Trimming
/-!
# Pages that are generated

From the page to the modules only the reading of lines can fail, and the writing of types for which
there is not enough room. Main statement: exactly which pages are generated, in which errors the
others end, and that without a base only a number that is too long or a type that is too deep keeps
a page from being generated (`exists_generate_iff`).
-/

namespace ApiBindings

open Reference (Options Reading Scan pageReadings pageLines)

/-! ## Lines that cannot be read -/

/-- The phrase in a line has more levels than there is room for. -/
def Reference.phraseError? (o : Options) (line : String) : Option Error :=
  match Markup.bareText line with
  | .ok phrase =>
    if TypeExpr.levels o.aliases phrase.toList ≤ o.depth then none else some .deepNesting
  | .error _ => none

/-- Why a line cannot be read, if it cannot: a number in it is too long, or it is read with its
links and the target of one of them cannot be joined with the base, or it is read as a type that is
too deep. -/
def Reference.Reading.error? (o : Options) : Reading → Option Error
  | .bare line => Markup.numberError? line
  | .linked line =>
    (Markup.numberError? line).or (Markup.linkError? o.base (Markup.fragmentLinks line))
  | .phrase line => (Markup.numberError? line).or (Reference.phraseError? o line)

/-- A reading ends in the error for which the line cannot be read. -/
theorem errorOf?_outcome (o : Options) (r : Reading) : errorOf? (r.outcome o) = r.error? o := by
  cases r with
  | bare line => exact Markup.errorOf?_bareText line
  | linked line => exact Markup.errorOf?_linkedText o.base line
  | phrase line =>
    have hphrase : ∀ phrase, Markup.bareText line = .ok phrase →
        errorOf? ((TypeExpr.read o.depth o.aliases phrase).map fun _ => phrase) =
          Reference.phraseError? o line := by
      intro phrase h
      rw [errorOf?_map, TypeExpr.read_eq, Reference.phraseError?, h]
      dsimp only
      split <;> rfl
    refine (errorOf?_bind hphrase).trans ?_
    rw [Markup.errorOf?_bareText]
    rfl

/-- Without a base the target of every link is told. -/
theorem targetError?_of_noBase {base : Option String} (h : base.getD "" = "")
    (href : Option (List Char)) : Markup.targetError? base href = none := by
  unfold Markup.targetError?
  rw [h]
  dsimp only
  split <;> rfl

/-- Without a base, and without a number that is too long, a line can be read unless its phrase is
too deep. -/
theorem exists_phrase_of_error? {o : Options} (h : o.base.getD "" = "") {r : Reading} {e : Error}
    (hline : Markup.hasLongNumber r.line.toList = false) (herror : r.error? o = some e) :
    ∃ line, r = .phrase line ∧ Reference.phraseError? o line = some e := by
  have hnumber : Markup.numberError? r.line = none := by
    unfold Markup.numberError?
    split
    · rename_i htree
      rw [Markup.hasLongNumber_of_tree htree] at hline
      cases hline
    · rfl
  cases r with
  | bare line => cases hnumber.symm.trans herror
  | linked line =>
    have hlinks : ∀ as, Markup.linkError? o.base as = none := by
      intro as
      unfold Markup.linkError?
      exact List.findSome?_eq_none_iff.2 fun _ _ => targetError?_of_noBase h _
    have herror : (Markup.numberError? line).or (Markup.linkError? o.base _) = some e := herror
    rw [hlinks, Option.or_none] at herror
    cases hnumber.symm.trans herror
  | phrase line =>
    have hnumber : Markup.numberError? line = none := hnumber
    have herror : (Markup.numberError? line).or (Reference.phraseError? o line) = some e := herror
    rw [hnumber, Option.none_or] at herror
    exact ⟨line, rfl, herror⟩

/-- A phrase cannot be read for want of room and for nothing else. -/
theorem eq_of_phraseError? {o : Options} {line : String} {e : Error}
    (h : Reference.phraseError? o line = some e) : e = .deepNesting := by
  unfold Reference.phraseError? at h
  split at h
  · split at h
    · cases h
    · exact (Option.some.inj h).symm
  · cases h

/-- There is room for a phrase of less than half as many characters. -/
theorem phraseError?_of_short {o : Options} {line : String}
    (h : ∀ phrase, Markup.bareText line = .ok phrase → 2 * phrase.length < o.depth) :
    Reference.phraseError? o line = none := by
  unfold Reference.phraseError?
  split
  · rename_i phrase hphrase
    have hlevels := TypeExpr.levels_le o.aliases phrase.toList
    rw [String.length_toList] at hlevels
    exact if_pos (hlevels.trans (h phrase hphrase))
  · rfl

/-- A line of a page is a part of it. -/
theorem isInfix_of_mem_pageLines {text line : String} (h : line ∈ pageLines text) :
    line.toList <:+: text.toList := by
  obtain ⟨whole, hwhole, rfl⟩ := List.mem_map.1 h
  obtain ⟨piece, hpiece, rfl⟩ := List.mem_map.1 hwhole
  unfold Text.trim
  rw [String.toList_ofList, String.toList_ofList]
  exact (Text.trimmed_isInfix piece).trans ((Text.isInfix_of_mem_pieces _ _).2 piece hpiece)

/-! ## Pages -/

/-- All definitions of a page can be written: there is room for the type of each field. -/
def PageFits (s : Settings) (text : String) : Prop :=
  ∀ scan, Reference.scan s.options text = .ok scan →
    ∀ d ∈ Definition.ofPage s.unions scan.sections, d.Fits s.room.writing

/-- A page is scanned exactly if each line of it that is read can be read. -/
theorem exists_scan_iff (o : Options) (text : String) :
    (∃ scan, Reference.scan o text = .ok scan) ↔ ∀ r ∈ pageReadings o text, r.error? o = none := by
  rw [(Reference.madeOf_scan o text).exists_ok_iff]
  simp only [← errorOf?_outcome, errorOf?_eq_none_iff]

/-- Where a page is scanned its modules are written if its definitions can be. -/
theorem generate_eq_of_scan {s : Settings} {text : String} {scan : Scan}
    (h : Reference.scan s.options text = .ok scan) :
    generate s text = Sources.write s (Definition.ofPage s.unions scan.sections) := by
  unfold generate
  rw [h]
  rfl

/-- Where the texts of the cells that are read as types are short, there is room for all of them. -/
theorem pageFits_of_short {s : Settings} {text : String}
    (h : ∀ line, Reading.phrase line ∈ pageReadings s.options text → ∀ phrase,
      Markup.bareText line = .ok phrase → phrase.length < s.room.writing) : PageFits s text := by
  intro scan hscan d hd f hf t ht
  have hrow := (mem_rows_of_mem_ofPage hd hf).1
  rw [Reference.type_of_scan hscan hrow] at ht
  obtain ⟨phrase, hphrase, rfl⟩ := Option.map_eq_some_iff.1 ht
  obtain ⟨cell, hcell, htext⟩ := Reference.exists_phrase_of_mem_rows hscan hrow hphrase
  have hshort := h cell hcell phrase htext
  have hdepth := depth_le_of_spells (TypeExpr.spells_ofChars s.options.aliases phrase.toList)
  rw [String.length_toList] at hdepth
  exact hdepth.trans hshort

/-- A page has modules exactly if each line of it that is read can be read and there is room for the
types of its definitions. -/
theorem exists_sources_iff (s : Settings) (text : String) :
    (∃ sources, generate s text = .ok sources) ↔
      (∀ r ∈ pageReadings s.options text, r.error? s.options = none) ∧ PageFits s text := by
  rw [← exists_scan_iff]
  constructor
  · rintro ⟨sources, hsources⟩
    obtain ⟨scan, hscan, hwrite⟩ := bind_eq_ok_iff.1 hsources
    refine ⟨⟨scan, hscan⟩, fun scan' hscan' => ?_⟩
    obtain rfl := Except.ok.inj (hscan.symm.trans hscan')
    rw [Sources.write_eq] at hwrite
    split at hwrite
    · assumption
    · cases hwrite
  · rintro ⟨⟨scan, hscan⟩, hfits⟩
    exact ⟨_, by rw [generate_eq_of_scan hscan, Sources.write_eq, if_pos (hfits scan hscan)]⟩

/-- A page without modules ends in the error of a line that is read, or for want of room. -/
theorem exists_of_generate_eq_error {s : Settings} {text : String} {e : Error}
    (he : generate s text = .error e) :
    (∃ r ∈ pageReadings s.options text, r.line ∈ pageLines text ∧ r.error? s.options = some e) ∨
      e = .deepNesting ∧ ¬ PageFits s text := by
  rcases bind_eq_error_iff.1 he with hscan | ⟨scan, hscan, hwrite⟩
  · obtain ⟨r, hr, herror⟩ := (Reference.madeOf_scan s.options text).of_error e hscan
    refine Or.inl ⟨r, hr, Reference.line_mem_of_pageReadings hr, ?_⟩
    rw [← errorOf?_outcome, errorOf?_eq_some_iff]
    exact herror
  · rw [Sources.write_eq] at hwrite
    split at hwrite
    · cases hwrite
    · rename_i hdeep
      exact Or.inr ⟨(Except.error.inj hwrite).symm, fun hfits => hdeep (hfits scan hscan)⟩

/-- **Which pages are generated.** A page has modules exactly if each line of it that is read can be
read and there is room for the types of its definitions. Where it has none it ends in the error of
one of these lines, or for want of room. Without a base and without a number of too many digits
there is no other error than that, and none at all where the phrases of types are short. -/
theorem exists_generate_iff (s : Settings) (text : String) :
    ((∃ sources, generate s text = .ok sources) ↔
      (∀ r ∈ pageReadings s.options text, r.error? s.options = none) ∧ PageFits s text) ∧
    (∀ e, generate s text = .error e →
      (∃ r ∈ pageReadings s.options text, r.line ∈ pageLines text ∧ r.error? s.options = some e) ∨
        e = .deepNesting ∧ ¬ PageFits s text) ∧
    (s.base.getD "" = "" → Markup.hasLongNumber text.toList = false →
      (∀ e, generate s text = .error e → e = .deepNesting) ∧
        ((∀ line, Reading.phrase line ∈ pageReadings s.options text → ∀ phrase,
            Markup.bareText line = .ok phrase →
              2 * phrase.length < s.room.reading ∧ phrase.length < s.room.writing) →
          ∃ sources, generate s text = .ok sources)) := by
  refine ⟨exists_sources_iff s text, fun e => exists_of_generate_eq_error, ?_⟩
  intro hbase htext
  have hshort : ∀ r ∈ pageReadings s.options text, Markup.hasLongNumber r.line.toList = false := by
    intro r hr
    rw [Bool.eq_false_iff] at htext ⊢
    intro hline
    exact htext (Markup.hasLongNumber_of_isInfix
      (isInfix_of_mem_pageLines (Reference.line_mem_of_pageReadings hr)) hline)
  have hphrase : ∀ r ∈ pageReadings s.options text, ∀ e, r.error? s.options = some e →
      ∃ line, r = .phrase line ∧ Reference.phraseError? s.options line = some e :=
    fun r hr e herror => exists_phrase_of_error? hbase (hshort r hr) herror
  constructor
  · intro e he
    rcases exists_of_generate_eq_error he with ⟨r, hr, -, herror⟩ | ⟨rfl, -⟩
    · obtain ⟨line, -, hdeep⟩ := hphrase r hr e herror
      exact eq_of_phraseError? hdeep
    · rfl
  · intro hroom
    refine (exists_sources_iff s text).2 ⟨?_, pageFits_of_short fun line hline phrase htext =>
      (hroom line hline phrase htext).2⟩
    intro r hr
    cases herror : r.error? s.options with
    | none => rfl
    | some e =>
      obtain ⟨line, rfl, hdeep⟩ := hphrase r hr e herror
      cases (phraseError?_of_short fun phrase htext =>
        (hroom line hr phrase htext).1).symm.trans hdeep

/-- A page with a link whose target has a bracket for its host, and with a field. -/
def bracketPage : String :=
  "<h4>User</h4>\n<p><a href=\"//[\">x</a></p>\n<tr>\n<td>id</td>\n<td>Array of True</td>\n</tr>"

/-- The field of the page. -/
def trueField : Reference.Field :=
  { name := some "id", phrase := some "Array of True", type := some (.list (.scalar "Bool")) }

/-- The page is generated without a base and not with one, nor where there is too little room for
its type. -/
theorem exists_generate_bracketPage :
    (∃ sources, generate Settings.plain bracketPage = .ok sources) ∧
      (∃ e, generate { Settings.plain with base := some "https://a.b/c" } bracketPage = .error e ∧
        ∃ r ∈ pageReadings Settings.plain.options bracketPage, r.line ∈ pageLines bracketPage ∧
          r.error? { base := some "https://a.b/c" } = some e) ∧
      ¬ (∃ sources,
        generate { Settings.plain with room := { writing := 1 } } bracketPage = .ok sources) := by
  have hlong : Markup.hasLongNumber bracketPage.toList = false := by decide +kernel
  have hreadings : pageReadings Settings.plain.options bracketPage = [
      .bare "<h4>User</h4>", .linked "<p><a href=\"//[\">x</a></p>", .bare "<td>id</td>",
      .phrase "<td>Array of True</td>"] := by decide +kernel
  have htype : Markup.bareText "<td>Array of True</td>" = .ok "Array of True" := by decide +kernel
  refine ⟨?_, ?_, ?_⟩
  · refine ((exists_generate_iff _ _).2.2 rfl hlong).2 ?_
    intro line hline phrase hphrase
    rw [hreadings] at hline
    obtain rfl : line = "<td>Array of True</td>" := by simpa using hline
    obtain rfl := Except.ok.inj (htype.symm.trans hphrase)
    decide +kernel
  · have hscan : Reference.scan
        (Settings.options { Settings.plain with base := some "https://a.b/c" }) bracketPage =
          .error .misplacedBrackets := by decide +kernel
    have hfails : generate { Settings.plain with base := some "https://a.b/c" } bracketPage =
        .error .misplacedBrackets := by
      unfold generate
      rw [hscan]
      rfl
    refine ⟨_, hfails, ?_⟩
    rcases (exists_generate_iff _ _).2.1 _ hfails with hread | ⟨hdeep, -⟩
    · exact hread
    · cases hdeep
  · intro hgenerated
    obtain ⟨-, hfits⟩ := (exists_generate_iff _ _).1.1 hgenerated
    have hscan : Reference.scan
        (Settings.options { Settings.plain with room := { writing := 1 } }) bracketPage =
          .ok ⟨[], .inSection { title := some "User", note := some "x", fields := [trueField] }, 0⟩
        := by decide +kernel
    have hdeep : ¬ (Definition.record ⟨"User", some "x", [trueField]⟩).Fits 1 := by decide
    exact hdeep (hfits _ hscan _ (by decide +kernel))

end ApiBindings
