import ApiBindings.Proofs.Bindings.LineBreaks
import ApiBindings.Proofs.Bindings.Literals
/-!
# Documentation of a function

The documentation of a function is one literal over several lines: what the operation does, a blank
line, a line for each parameter, what is returned, and the closing quotes. A parameter's line is
trimmed, which takes the guard away that keeps a quote from the quotes behind it, but the line feed
is there in its stead. Main statement: the literal ends at the quotes of its last line, and has one
line for each parameter (`readLiteral_operationCode`).
-/

namespace ApiBindings.Bindings

open Reference (Field)
open Text (isBlank trimEnd trimmedEnd)

/-! ## Lines of a literal -/

/-- A plain text is read as it is, whatever follows it. -/
theorem readBody_plain {s : List Char} (h : s.all isPlain = true) (rest : List Char) :
    readBody (s ++ rest) = readBefore s (readBody rest) := by
  induction s with
  | nil => simp
  | cons c s ih =>
    rw [List.all_cons, Bool.and_eq_true] at h
    have hc : c ∉ ['"', '\\', '\n', '\r'] := of_decide_eq_true h.1
    simp only [List.mem_cons, not_or] at hc
    rw [List.cons_append, readBody_cons hc.1 hc.2.1, ih h.2, readBefore_readBefore]
    rfl

/-- A piece of a literal behind a plain text. -/
theorem ReadsAs.behind {before s value : List Char} (hplain : before.all isPlain = true)
    (h : ReadsAs s value) : ReadsAs (before ++ s) (before ++ value) := by
  intro rest hrest
  rw [List.append_assoc, readBody_plain hplain, h rest hrest, readBefore_readBefore]

/-- **Lines are read one by one**: the line feed that ends a line is no quote. -/
theorem readBody_lines {ls vs : List (List Char)} (h : List.Forall₂ ReadsAs ls vs)
    (rest : List Char) :
    readBody (ls.flatMap (· ++ ['\n']) ++ rest) =
      readBefore (vs.flatMap (· ++ ['\n'])) (readBody rest) := by
  induction h with
  | nil => simp
  | cons hline _ ih =>
    rw [List.flatMap_cons, List.flatMap_cons, List.append_assoc, List.append_assoc,
      hline _ (by simp), List.singleton_append, readBody_cons (by decide) (by decide), ih]
    simp

/-- Trimming the end takes the guard away. -/
theorem trimmedEnd_guardEnd (before s : List Char) :
    trimmedEnd (before ++ guardEnd s) = trimmedEnd (before ++ s) := by
  unfold guardEnd
  split
  · rw [← List.append_assoc, Text.trimmedEnd_concat _ (by decide)]
  · rfl

/-- **A trimmed line is read back** if it is plain up to a text that is escaped and guarded and ends
in no blank. -/
theorem readsAs_trimmedEnd {before s : List Char} (hplain : before.all isPlain = true)
    (hs : ∀ c, s.getLast? = some c → isBlank c = false) :
    ReadsAs (trimmedEnd (before ++ guardEnd (escaped s))) (trimmedEnd (before ++ s)) := by
  rw [trimmedEnd_guardEnd]
  by_cases hempty : s = []
  · -- what is left is a beginning of the plain text
    subst hempty
    have hnothing : escaped [] = [] := by simp [escaped, escapeTriples, escapeBackslashes]
    rw [hnothing, List.append_nil]
    intro rest _
    refine readBody_plain (List.all_eq_true.2 ?_) rest
    intro c hc
    exact List.all_eq_true.1 hplain c ((Text.trimmedEnd_isPrefix before).subset hc)
  · have hkept : ∀ t : List Char, t.getLast? = s.getLast? →
        trimmedEnd (before ++ t) = before ++ t := by
      intro t ht
      refine Text.trimmedEnd_eq_self ?_
      intro c hc
      rw [List.getLast?_append, ht] at hc
      obtain ⟨d, hd⟩ := Option.ne_none_iff_exists'.1 (mt List.getLast?_eq_none_iff.1 hempty)
      rw [hd] at hc
      exact hs c (hd.trans hc)
    rw [hkept _ (getLast?_escaped s), hkept s rfl]
    exact (readsAs_escaped s).behind hplain

/-! ## The lines of the documentation -/

/-- The line of a parameter, up to its description. -/
def parameterLead (f : Field) : String := "\t:param " ++ propertyName f ++ ": "

/-- The lines of a documentation but for the last, where parameters are described in some way. -/
def linesAbove (o : Operation) (opening : String) (describe : Field → String) : List String :=
  [opening, ""] ++ o.fields.map (fun f => trimEnd (parameterLead f ++ describe f))
  ++ ["\t" ++ returnsLine]

/-- The lines of the documentation of an operation, without the tab in front of the first. -/
def documentationLines (o : Operation) : List String :=
  linesAbove o ("\"\"\"" ++ docstring o.note o.title) (docstring ·.description "") ++ ["\t\"\"\""]

/-- The lines that are read of it: the texts that are documented, a guard behind the first. -/
def documentedLines (o : Operation) : List String :=
  linesAbove o (String.ofList (guardEnd (documented o.note o.title).toList))
    (documented ·.description "") ++ ["\t"]

/-- The lines behind the documentation. -/
def requestLines (o : Operation) : List String :=
  if o.fields.isEmpty then ["\treturn Request(method=\"" ++ o.title ++ "\", body=\x7b\x7d)"]
  else
    ["\tparameters = \x7b"]
    ++ o.fields.map bodyLine
    ++ ["\t\x7d", "\treturn Request(method=\"" ++ o.title ++ "\", body=parameters)"]

/-- Lines of code behind others. -/
theorem codeText_append {ls ls' : List String} (h : ls ≠ []) (h' : ls' ≠ []) :
    codeText (ls ++ ls') = codeText ls ++ codeText ls' := by
  rw [← String.toList_inj, String.toList_append, toList_codeText h, toList_codeText h',
    toList_codeText (by simp [h]), List.flatMap_append]

/-- The first line of some code is indented. -/
theorem codeText_indented (l : String) (ls : List String) :
    codeText (("\t" ++ l) :: ls) = "\t" ++ codeText (l :: ls) := by
  rw [← String.toList_inj, String.toList_append, toList_codeText (List.cons_ne_nil _ _),
    toList_codeText (List.cons_ne_nil _ _)]
  simp

/-- The code of an operation: what declares the function, its documentation, and the request. -/
theorem operationCode_eq (n : Names) (o : Operation) :
    operationCode n o = codeText (["@staticmethod"] ++ signature n o) ++ "\t" ++
      Text.unlines (documentationLines o) ++ "\n" ++ codeText (requestLines o) := by
  have hbody : functionBody o =
      (("\t" ++ ("\"\"\"" ++ docstring o.note o.title)) :: (documentationLines o).tail) ++
        requestLines o := by
    have hopening : "\t\"\"\"" ++ docstring o.note o.title =
        "\t" ++ ("\"\"\"" ++ docstring o.note o.title) := by
      rw [← String.toList_inj]
      simp
    unfold functionBody
    rw [hopening]
    simp [documentationLines, linesAbove, requestLines, parameterLead]
  have hdocumentation : documentationLines o =
      ("\"\"\"" ++ docstring o.note o.title) :: (documentationLines o).tail := rfl
  have hrequest : requestLines o ≠ [] := by
    unfold requestLines
    split <;> simp
  unfold operationCode
  rw [hbody, ← List.append_assoc, codeText_append (by simp) hrequest,
    codeText_append (by simp) (List.cons_ne_nil _ _), codeText_indented, ← hdocumentation]
  unfold codeText
  simp only [String.append_assoc]

/-- The lead of a complete field is plain. -/
theorem all_isPlain_parameterLead {f : Field} (h : f.isComplete = true) :
    (parameterLead f).toList.all isPlain = true := by
  have hname := all_isPlain fun c hc => delimiter_not_mem_propertyName h hc
  have hlead : "\t:param ".toList.all isPlain = true := by decide
  have hcolon : ": ".toList.all isPlain = true := by decide
  simp only [parameterLead, String.toList_append, List.all_append, hname, hlead, hcolon]
  rfl

/-- The line of a parameter is read as its name and what is documented of it. -/
theorem readsAs_parameter {f : Field} (h : f.isComplete = true) :
    ReadsAs (trimEnd (parameterLead f ++ docstring f.description "")).toList
      (trimEnd (parameterLead f ++ documented f.description "")).toList := by
  simp only [trimEnd, String.toList_ofList, String.toList_append, toList_docstring]
  refine readsAs_trimmedEnd (all_isPlain_parameterLead h) ?_
  intro c hc
  exact Text.isBlank_of_getLast?_squeeze hc

/-- The line of a parameter begins with its name. -/
theorem isPrefix_parameter (f : Field) (text : String) :
    ("\t:param " ++ propertyName f ++ ":").toList <+:
      (trimEnd (parameterLead f ++ text)).toList := by
  have hcolon := Text.trimmedEnd_of_not_isBlank ("\t:param " ++ propertyName f).toList
    (' ' :: text.toList) (c := ':') (by decide)
  have hlead : (parameterLead f ++ text).toList =
      ("\t:param " ++ propertyName f).toList ++ ':' :: ' ' :: text.toList := by
    simp [parameterLead]
  rw [trimEnd, String.toList_ofList, hlead, hcolon]
  exact ⟨trimmedEnd (' ' :: text.toList), by simp⟩

/-- No line of the documentation is broken. -/
theorem lineBreak_not_mem {o : Operation} (complete : ∀ f ∈ o.fields, f.isComplete = true) :
    ∀ line ∈ documentationLines o, ∀ c ∈ lineBreaks, c ∉ line.toList := by
  have hp : PicksBreaks lineBreaks.contains := ⟨by decide, fun c => List.contains_iff_mem.1⟩
  have hbreaks : ∀ line ∈ documentationLines o, breaks lineBreaks.contains line = 0 := by
    intro line hline
    unfold documentationLines linesAbove at hline
    simp only [List.mem_append, List.mem_cons, List.not_mem_nil, or_false, List.mem_map] at hline
    rcases hline with (((rfl | rfl) | ⟨f, hf, rfl⟩) | rfl) | rfl
    · rw [breaks_append, breaks_docstring hp, breaks_of_plain hp (by decide)]
    · rfl
    · apply breaks_trimEnd
      rw [breaks_append, breaks_docstring hp]
      simp (disch := decide) only [parameterLead, breaks_append, breaks_of_plain hp,
        (breaks_names hp (complete f hf)).1]
    · exact breaks_of_plain hp (by decide)
    · exact breaks_of_plain hp (by decide)
  intro line hline c hc hmem
  have hnone := breaks_eq_zero_iff.1 (hbreaks line hline) c hmem
  rw [List.contains_iff_mem.2 hc] at hnone
  cases hnone

/-! ## The documentation -/

/-- Lines before a last one. -/
theorem toList_unlines_concat (ls : List String) (l : String) :
    (Text.unlines (ls ++ [l])).toList = (ls.flatMap fun l => l.toList ++ ['\n']) ++ l.toList := by
  have hcode := @toList_codeText (ls ++ [l]) (by simp)
  rw [codeText, String.toList_append, List.flatMap_append, List.flatMap_singleton,
    ← List.append_assoc] at hcode
  exact List.append_cancel_right hcode

/-- What stands above the closing quotes is read line by line. -/
theorem readsAs_linesAbove {o : Operation} (complete : ∀ f ∈ o.fields, f.isComplete = true) :
    List.Forall₂ ReadsAs
      ((linesAbove o (docstring o.note o.title) (docstring ·.description "")).map String.toList)
      ((linesAbove o (String.ofList (guardEnd (documented o.note o.title).toList))
        (documented ·.description "")).map String.toList) := by
  have hparameters : List.Forall₂ ReadsAs
      ((o.fields.map fun f => trimEnd (parameterLead f ++ docstring f.description "")).map
        String.toList)
      ((o.fields.map fun f => trimEnd (parameterLead f ++ documented f.description "")).map
        String.toList) := by
    simp only [List.forall₂_map_left_iff, List.forall₂_map_right_iff]
    exact List.forall₂_same.2 fun f hf => readsAs_parameter (complete f hf)
  have hopening : ReadsAs (docstring o.note o.title).toList
      (String.ofList (guardEnd (documented o.note o.title).toList)).toList := by
    intro rest _
    rw [String.toList_ofList]
    exact readBody_docstring o.note o.title rest
  have hempty : ReadsAs "".toList "".toList := fun rest _ => (readBefore_nil _).symm
  have hplain : ("\t" ++ returnsLine).toList.all isPlain = true := by decide
  have hreturns : ReadsAs ("\t" ++ returnsLine).toList ("\t" ++ returnsLine).toList :=
    fun rest _ => readBody_plain hplain rest
  unfold linesAbove
  rw [List.map_append, List.map_append, List.map_append, List.map_append]
  exact .cons hopening (.cons hempty (List.rel_append hparameters (.cons hreturns .nil)))

/-- **The documentation is read up to the quotes of its last line**, whatever follows it. -/
theorem readLiteral_documentation {o : Operation}
    (complete : ∀ f ∈ o.fields, f.isComplete = true) (rest : List Char) :
    readLiteral ((Text.unlines (documentationLines o)).toList ++ rest) =
      some ((Text.unlines (documentedLines o)).toList, rest) := by
  have hclose : readBody ("\t\"\"\"".toList ++ rest) = some (['\t'], rest) := rfl
  have hread := readBody_lines (readsAs_linesAbove complete) ("\t\"\"\"".toList ++ rest)
  rw [hclose] at hread
  unfold documentationLines documentedLines
  rw [toList_unlines_concat, toList_unlines_concat]
  simpa [linesAbove, List.flatMap_map, readLiteral, readBefore] using hread

/-- **The documentation of a function ends where it is closed.** The code of an operation whose
fields are complete declares the function and then, behind a tab, opens a literal in triple quotes.
Whatever follows it, that literal is read up to the quotes of its own last line, the one behind the
line that says what is returned. Between the blank line behind its first and that line it has
exactly one line for each field, in their order, which begins with the name of the parameter, and
none of its lines holds a character that would break it. What is read are the texts that are
documented. -/
theorem readLiteral_operationCode (n : Names) {o : Operation}
    (complete : ∀ f ∈ o.fields, f.isComplete = true) :
    ∃ (literal request first : String) (parameters : List String),
      operationCode n o =
        codeText (["@staticmethod"] ++ signature n o) ++ "\t" ++ literal ++ "\n" ++ request ∧
      (∀ rest, readLiteral (literal.toList ++ rest) =
        some ((Text.unlines (documentedLines o)).toList, rest)) ∧
      Text.lines literal = [first, ""] ++ parameters ++ ["\t" ++ returnsLine, "\t\"\"\""] ∧
      List.Forall₂ (fun f line => ("\t:param " ++ propertyName f ++ ":").toList <+: line.toList)
        o.fields parameters ∧
      ∀ line ∈ Text.lines literal, ∀ c ∈ lineBreaks, c ∉ line.toList := by
  have hlines : Text.lines (Text.unlines (documentationLines o)) = documentationLines o := by
    refine Text.lines_unlines (by simp [documentationLines]) ?_
    intro line hline
    exact lineBreak_not_mem complete line hline '\n' (by decide)
  refine ⟨Text.unlines (documentationLines o), codeText (requestLines o),
    "\"\"\"" ++ docstring o.note o.title,
    o.fields.map (fun f => trimEnd (parameterLead f ++ docstring f.description "")),
    operationCode_eq n o, readLiteral_documentation complete, ?_, ?_, ?_⟩
  · rw [hlines]
    simp [documentationLines, linesAbove]
  · rw [List.forall₂_map_right_iff]
    exact List.forall₂_same.2 fun f _ => isPrefix_parameter f _
  · rw [hlines]
    exact lineBreak_not_mem complete

/-- An operation whose texts end in quotes and backslashes. -/
def quoteMessage : Operation :=
  { title := "quoteMessage"
    note := some "Quotes \"\"\"a\"\"\" or \"b\""
    fields := [
      { name := some "text", type := some (.scalar "String"), description := some "Say \"\"" },
      { name := some "path", type := some (.scalar "String"), description := some "C:\\" },
      { name := some "id", type := some (.scalar "Int") }] }

/-- What is read of its documentation. -/
def quoteMessageText : String :=
  Text.unlines ["Quotes \"\"\"a\"\"\" or \"b\" ", "", "\t:param text: Say \"\"",
    "\t:param path: C:\\", "\t:param id:", "\t" ++ returnsLine, "\t"]

/-- All three of its parameters are described in the literal, which ends at its last quotes. -/
theorem readLiteral_operationCode_quoteMessage :
    (∀ f ∈ quoteMessage.fields, f.isComplete = true) ∧
    ∃ literal request : String,
      operationCode {} quoteMessage =
        codeText (["@staticmethod"] ++ signature {} quoteMessage) ++ "\t" ++ literal ++ "\n" ++
          request ∧
      readLiteral (literal ++ ("\n" ++ request)).toList =
        some (quoteMessageText.toList, ("\n" ++ request).toList) := by
  have complete : ∀ f ∈ quoteMessage.fields, f.isComplete = true := by decide +kernel
  have hsaid : Text.unlines (documentedLines quoteMessage) = quoteMessageText := by
    decide +kernel
  obtain ⟨literal, request, first, parameters, hcode, hread, -⟩ :=
    readLiteral_operationCode {} complete
  refine ⟨complete, literal, request, hcode, ?_⟩
  rw [String.toList_append, hread, hsaid]

end ApiBindings.Bindings
