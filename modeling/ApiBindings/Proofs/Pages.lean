import ApiBindings.Proofs.Bindings.Registers
import ApiBindings.Proofs.Generation
import ApiBindings.Proofs.Reference.Cursors
/-!
# One page after another

A generator that is kept from page to page has the registers of a scan and those of a writer. A page
that cannot be scanned leaves the first half filled and the second as an earlier page left them, and
one that cannot be written leaves the second half filled. Both are cleared before they are used, so
nothing of a page is found in the outcome of a later one. Main statement: each of several pages has
the outcome that it has alone, whatever came before it (`outcomes_of_pages`).
-/

namespace ApiBindings

open Bindings (Call Registers)
open Reference (Cursors)

/-! ## A generator that is kept -/

/-- The registers that stay from page to page. -/
structure Generator where
  scan : Cursors
  writer : Registers
  deriving DecidableEq, Repr

/-- No page has been read. -/
def Generator.fresh : Generator := ⟨Cursors.start, Registers.start⟩

/-- A scan begins again, whatever is left of the last one. -/
def Reference.Cursors.reset (c : Cursors) : Cursors :=
  { c with mode := .idle, sections := [], skipped := 0, openSection := none, openRow := none }

/-- The generator after a page, and the outcome of the page. -/
def Generator.page (s : Settings) (g : Generator) (text : String) :
    Option (Generator × Except Error Sources) := do
  let (scan, error?) ← g.scan.reset.run s.options (Reference.pageLines text)
  match error? with
  | some e => return ({ g with scan }, .error e)
  | none =>
    let (writer, sources) := g.writer.modules s (Definition.ofPage s.unions scan.sections)
    return ({ scan, writer }, sources)

/-- The generator after several pages, and the outcome of each. -/
def Generator.pages (s : Settings) :
    Generator → List String → Option (Generator × List (Except Error Sources))
  | g, [] => some (g, [])
  | g, text :: texts => do
    let (g, outcome) ← g.page s text
    let (g, outcomes) ← g.pages s texts
    return (g, outcome :: outcomes)

/-! ## What a page leaves -/

/-- The generator that a page leaves: the registers of its scan, and those of its definitions if the
scan returns. -/
def Generator.after (s : Settings) (g : Generator) (text : String) : Generator :=
  let outcome := Reference.Scan.start.run s.options (Reference.pageLines text)
  { scan := outcome.1.cursors
    writer := match outcome.2 with
      | some _ => g.writer
      | none => .ofDefinitions s (Definition.ofPage s.unions outcome.1.sections) }

/-- **A page has the outcome that is stated for it alone.** -/
theorem page_eq (s : Settings) (g : Generator) (text : String) :
    g.page s text = some (g.after s text, generate s text) := by
  have hrun : g.scan.reset.run s.options (Reference.pageLines text) =
      some ((Reference.Scan.start.run s.options (Reference.pageLines text)).1.cursors,
        (Reference.Scan.start.run s.options (Reference.pageLines text)).2) :=
    Reference.run_cursors s.options Reference.Scan.start (Reference.pageLines text)
  unfold Generator.page Generator.after generate Reference.scan
  rw [hrun]
  obtain ⟨scan, error?⟩ := Reference.Scan.start.run s.options (Reference.pageLines text)
  cases error? with
  | some e => rfl
  | none =>
    show (match g.writer.modules s (Definition.ofPage s.unions scan.sections) with
      | (writer, sources) => some (Generator.mk scan.cursors writer, sources)) = _
    rw [Bindings.modules_eq]
    rfl

/-- So have several pages, one after the other. -/
theorem pages_eq (s : Settings) (g : Generator) (texts : List String) :
    g.pages s texts = some (texts.foldl (Generator.after s) g, texts.map (generate s)) := by
  induction texts generalizing g with
  | nil => rfl
  | cons text texts ih =>
    rw [Generator.pages, page_eq]
    show (Generator.pages s (g.after s text) texts >>= _) = _
    rw [ih]
    rfl

/-- **Nothing is remembered.** Whatever a generator keeps, each of several pages, also behind pages
that fail, has the outcome of a fresh generator, which is the stated one. A writer keeps its
registers while it is asked for anything but modules, and the modules that it puts together are
those of a fresh one, whatever it was asked before. -/
theorem outcomes_of_pages (s : Settings) :
    (∀ (g : Generator) (texts : List String),
      (g.pages s texts).map (·.2) = some (texts.map (generate s)) ∧
        ∀ text ∈ texts, (Generator.fresh.page s text).map (·.2) = some (generate s text)) ∧
    (∀ (r : Registers) (calls : List Call), (∀ call ∈ calls, call.definitions? = none) →
      (r.answers s calls).1 = r) ∧
    ∀ (r : Registers) (calls : List Call) (ds : List Definition),
      ((r.answers s calls).1.answer s (.modules ds)).2 = .ofSources (Sources.write s ds) ∧
        (Registers.start.answer s (.modules ds)).2 = .ofSources (Sources.write s ds) := by
  have hmodules : ∀ (r : Registers) (ds : List Definition),
      (r.answer s (.modules ds)).2 = .ofSources (Sources.write s ds) := by
    intro r ds
    show Bindings.Reply.ofSources (r.modules s ds).2 = _
    rw [Bindings.modules_eq]
  refine ⟨?_, ?_, ?_⟩
  · intro g texts
    constructor
    · rw [pages_eq]
      rfl
    · intro text _
      rw [page_eq]
      rfl
  · intro r calls hcalls
    exact Bindings.answers_registers_of_none hcalls r
  · intro r calls ds
    exact ⟨hmodules _ ds, hmodules _ ds⟩

/-- An empty page behind one that fails, and calls of a writer that something is kept by. -/
theorem outcomes_of_pages_bracketPage :
    (Generator.fresh.pages { Settings.plain with base := some "https://a.b/c" }
        [bracketPage, ""]).map (·.2) =
      some [.error .misplacedBrackets,
        generate { Settings.plain with base := some "https://a.b/c" } ""] ∧
    ((⟨[("A", "B")], []⟩ : Registers).answers { Settings.plain with base := some "https://a.b/c" }
        [.scalar "A", .typesModule []]).1 = ⟨[("A", "B")], []⟩ := by
  have hscan : Reference.scan
      (Settings.options { Settings.plain with base := some "https://a.b/c" }) bracketPage =
        .error .misplacedBrackets := by decide +kernel
  have hfails : generate { Settings.plain with base := some "https://a.b/c" } bracketPage =
      .error .misplacedBrackets := by
    unfold generate
    rw [hscan]
    rfl
  have hcalls : ∀ call ∈ [Call.scalar "A", .typesModule []], call.definitions? = none := by
    simp [Call.definitions?]
  obtain ⟨hpages, hkept, -⟩ :=
    outcomes_of_pages { Settings.plain with base := some "https://a.b/c" }
  refine ⟨?_, hkept _ _ hcalls⟩
  rw [(hpages Generator.fresh [bracketPage, ""]).1, List.map_cons, hfails]
  rfl

end ApiBindings
