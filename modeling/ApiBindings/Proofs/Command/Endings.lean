import ApiBindings.Command.Run
import ApiBindings.Proofs.Bindings.Depth
import ApiBindings.Proofs.Output.Writing
/-!
# How a run ends

A run that names no log file logs to the console only, so its files change by the writing of the
modules and by nothing else: it reads the page, generates and writes as if nothing were logged
(`isOf_run`). Main statement: when the exit status is zero and what is then on standard output and
in the module files, how a page that cannot be read is reported, and that nothing changes where
reading or generating fails (`run_ending`).
-/

namespace ApiBindings.Command

open Files (Tree Path)

/-! ## Logging to the console -/

/-- All handlers write to the console. -/
def OnConsole (l : Log.Logger) : Prop := ∀ h ∈ l.handlers, h.sink = .console

/-- Handlers that write to the console leave the files. -/
theorem foldl_put_files {line : String} {handlers : List Log.Handler}
    (h : ∀ handler ∈ handlers, handler.sink = .console) (w : Log.Written) :
    (handlers.foldl (fun w handler => handler.sink.put line w) w).files = w.files := by
  induction handlers generalizing w with
  | nil => rfl
  | cons handler handlers ih =>
    obtain ⟨hconsole, hrest⟩ := List.forall_mem_cons.1 h
    rw [List.foldl_cons, ih hrest, hconsole]
    rfl

/-- So does every record of a logger that has only such handlers. -/
theorem emitAll_files {l : Log.Logger} (hl : OnConsole l) (stamp : String)
    (rs : List Log.Record) (w : Log.Written) : (l.emitAll stamp w rs).files = w.files := by
  induction rs generalizing w with
  | nil => rfl
  | cons r rs ih =>
    have hemit : (l.emit stamp w r).files = w.files := by
      unfold Log.Logger.emit
      split
      · exact foldl_put_files (fun handler h => hl handler (List.mem_of_mem_filter h)) w
      · rfl
    show (l.emitAll stamp (l.emit stamp w r) rs).files = _
    rw [ih, hemit]

/-- The console is not detached with a file. -/
theorem OnConsole.detach {l : Log.Logger} (hl : OnConsole l) (loc : Files.Location) :
    OnConsole (l.detach loc) := by
  intro handler hhandler
  obtain ⟨before, hbefore, rfl⟩ := List.mem_map.1 hhandler
  show before.sink.detach loc = .console
  rw [hl before hbefore]
  rfl

/-- Without a log file the logger is set up on the console, and nothing is opened. -/
theorem setup_of_noFile {file : Option String} (h : file.getD "" = "") (level : Int) (t : Tree) :
    ∃ l, initialLogger.setup level file t = .ok (l, t) ∧ OnConsole l := by
  have hnone : file.filter (!·.isEmpty) = none := by
    cases file with
    | none => rfl
    | some path =>
      obtain rfl : path = "" := h
      rfl
  refine ⟨initialLogger.withConsole.setLevel level, ?_, ?_⟩
  · unfold Log.Logger.setup
    rw [hnone]
    rfl
  · intro handler hhandler
    obtain ⟨before, hbefore, rfl⟩ := List.mem_map.1 hhandler
    rw [List.mem_singleton.1 hbefore]

/-! ## Sessions on the console -/

/-- Logging leaves the logger. -/
theorem log_logger (s : Session) (stamp : String) (rs : List Log.Record) :
    (s.log stamp rs).logger = s.logger := rfl

/-- Logging to the console leaves the files. -/
theorem log_files {s : Session} (hs : OnConsole s.logger) (stamp : String)
    (rs : List Log.Record) : (s.log stamp rs).written.files = s.written.files :=
  emitAll_files hs stamp rs s.written

/-- The texts are put in their places as they are without a log. -/
theorem place_eq (stamp : String) (dir : Path) (texts : List (String × String)) (s : Session)
    (hs : OnConsole s.logger) :
    (s.place stamp dir texts).1.written.files =
        (Output.placeAll s.written.files dir texts).1 ∧
      (s.place stamp dir texts).2 = (Output.placeAll s.written.files dir texts).2 := by
  induction texts generalizing s with
  | nil => exact ⟨rfl, rfl⟩
  | cons x texts ih =>
    obtain ⟨file, text⟩ := x
    unfold Session.place Output.placeAll
    dsimp only
    generalize Output.place s.written.files (dir.child file) text = placed
    -- the session behind the text, with its record
    have hlogger : OnConsole ((placed.removed.map (s.withFiles placed.files).logger.detach).getD
        (s.withFiles placed.files).logger) := by
      cases placed.removed with
      | none => exact hs
      | some loc => exact hs.detach loc
    generalize hnext : Session.log stamp (placed.report (dir.child file) text)
      { s.withFiles placed.files with
        logger := (placed.removed.map (s.withFiles placed.files).logger.detach).getD
          (s.withFiles placed.files).logger } = next
    have hfiles : next.written.files = placed.files := by
      rw [← hnext]
      exact log_files hlogger stamp _
    have hconsole : OnConsole next.logger := by
      rw [← hnext, log_logger]
      exact hlogger
    cases placed.failure with
    | some e => exact ⟨hfiles, rfl⟩
    | none =>
      have hrest := ih next hconsole
      rw [hfiles] at hrest
      exact hrest

/-- The modules are written as they are without a log. -/
theorem write_eq (stamp : String) (dir : String) (texts : List (String × String)) (s : Session)
    (hs : OnConsole s.logger) :
    (s.write stamp dir texts).1.written.files = (Output.write s.written.files dir texts).1 ∧
      (s.write stamp dir texts).2 = errorOf? (Output.write s.written.files dir texts).2 := by
  unfold Session.write Output.write
  dsimp only
  generalize Output.prepare s.written.files (Path.ofString dir) = prepared
  obtain ⟨files, error?⟩ := prepared
  cases error? with
  | some e => exact ⟨rfl, rfl⟩
  | none =>
    have hplace := place_eq stamp (Path.ofString dir) texts (s.withFiles files) hs
    have hwritten : (s.withFiles files).written.files = files := rfl
    rw [hwritten] at hplace
    dsimp only
    generalize Output.placeAll files (Path.ofString dir) texts = outcome at hplace ⊢
    obtain ⟨files', error?⟩ := outcome
    cases error? <;> exact hplace

/-! ## Runs without a log file -/

section Deed

variable {further : Charset.Registry} {st : Settings} {files : Tree}

/-- What a run does to the files, and the error that it ends in. -/
def deed (further : Charset.Registry) (st : Settings) (files : Tree) : Tree × Option Error :=
  match Page.read further files st.source with
  | .error e => (files, some e)
  | .ok text =>
    match generate st text with
    | .error e => (files, some e)
    | .ok sources =>
      let outcome := Output.write files st.outputDir
        [(st.typesFile, sources.types), (st.operationsFile, sources.operations)]
      (outcome.1, errorOf? outcome.2)

/-- Where the page cannot be read, or nothing generated of it, nothing is done. -/
theorem deed_of_error {e : Error}
    (h : Page.read further files st.source = .error e ∨
      ∃ text, Page.read further files st.source = .ok text ∧ generate st text = .error e) :
    deed further st files = (files, some e) := by
  unfold deed
  rcases h with h | ⟨text, h, hgenerate⟩
  · rw [h]
  · rw [h]
    dsimp only
    rw [hgenerate]

/-- Otherwise the modules are written. -/
theorem deed_of_sources {text : String} {sources : Sources}
    (h : Page.read further files st.source = .ok text)
    (hgenerate : generate st text = .ok sources) :
    deed further st files =
      ((Output.write files st.outputDir
          [(st.typesFile, sources.types), (st.operationsFile, sources.operations)]).1,
        errorOf? (Output.write files st.outputDir
          [(st.typesFile, sources.types), (st.operationsFile, sources.operations)]).2) := by
  unfold deed
  rw [h]
  dsimp only
  rw [hgenerate]

/-- A run does all of it, and ends in no error, exactly if each of the three steps returns. -/
theorem deed_eq_none_iff :
    (deed further st files).2 = none ↔
      ∃ text sources paths, Page.read further files st.source = .ok text ∧
        generate st text = .ok sources ∧
        (Output.write files st.outputDir
          [(st.typesFile, sources.types), (st.operationsFile, sources.operations)]).2 =
            .ok paths := by
  constructor
  · intro h
    cases hread : Page.read further files st.source with
    | error e =>
      rw [deed_of_error (Or.inl hread)] at h
      cases h
    | ok text =>
      cases hgenerate : generate st text with
      | error e =>
        rw [deed_of_error (Or.inr ⟨text, hread, hgenerate⟩)] at h
        cases h
      | ok sources =>
        rw [deed_of_sources hread hgenerate] at h
        obtain ⟨paths, hpaths⟩ := errorOf?_eq_none_iff.1 h
        exact ⟨text, sources, paths, rfl, hgenerate, hpaths⟩
  · rintro ⟨text, sources, paths, hread, hgenerate, hpaths⟩
    rw [deed_of_sources hread hgenerate]
    exact errorOf?_eq_none_iff.2 ⟨paths, hpaths⟩

end Deed

/-- The line that a run ends on. -/
def lastLine : Option Error → String
  | none => "Success!\n"
  | some e => if isReported e then "Failed: " ++ e.message ++ "\n" else ""

/-- The exit status of a run, or the error that it does not answer for. -/
def exitStatus : Option Error → Except Error Nat
  | none => .ok 0
  | some e => if isReported e then .ok 1 else .error e

theorem exitStatus_eq_zero_iff {e? : Option Error} : exitStatus e? = .ok 0 ↔ e? = none := by
  cases e? with
  | none => simp [exitStatus]
  | some e =>
    cases hreported : isReported e <;> simp [exitStatus, hreported]

/-- A run leaves these files, and ends as its error says. -/
structure Ending.IsOf (outcome : Tree × Option Error) (ending : Ending) : Prop where
  files : ending.files = outcome.1
  stdout : ending.stdout = lastLine outcome.2
  status : ending.status = exitStatus outcome.2

theorem isOf_finish (s : Session) : (s.finish "Success!" 0).IsOf (s.written.files, none) :=
  ⟨rfl, rfl, rfl⟩

theorem isOf_fail (e : Error) (s : Session) : (s.fail e).IsOf (s.written.files, some e) := by
  unfold Session.fail
  cases hreported : isReported e with
  | false => exact ⟨rfl, by simp [lastLine, hreported], by simp [exitStatus, hreported]⟩
  | true =>
    exact ⟨rfl, by simp [lastLine, hreported, Session.finish],
      by simp [exitStatus, hreported, Session.finish]⟩

/-- A session that writes the modules ends as writing them does. -/
theorem isOf_write (stamp : String) (dir : String) (texts : List (String × String)) (s : Session)
    (hs : OnConsole s.logger) :
    Ending.IsOf ((Output.write s.written.files dir texts).1,
        errorOf? (Output.write s.written.files dir texts).2)
      (match s.write stamp dir texts with
        | (s, some e) => s.fail e
        | (s, none) => s.finish "Success!" 0) := by
  obtain ⟨hfiles, herror⟩ := write_eq stamp dir texts s hs
  rw [← hfiles, ← herror]
  obtain ⟨s', error?⟩ := s.write stamp dir texts
  cases error? with
  | none => exact isOf_finish s'
  | some e => exact isOf_fail e s'

/-- **Without a log file a run does what it does without a log**, and ends as its error says. -/
theorem isOf_run (further : Charset.Registry) (stamp : String) (st : Settings) (s : Session)
    (hs : OnConsole s.logger) :
    (Session.run further stamp st s).IsOf (deed further st s.written.files) := by
  unfold Session.run deed Page.read
  cases Page.load s.written.files st.source with
  | error e => exact isOf_fail e s
  | ok page =>
    have hbind : (Except.ok page >>= fun page => page.text further : Except Error String) =
        page.text further := rfl
    rw [hbind]
    dsimp only
    cases page.text further with
    | error e => exact isOf_fail e s
    | ok text =>
      dsimp only
      generalize hlog : s.log stamp (page.report further ++ generateReport st text) = logged
      have hlogged : logged.written.files = s.written.files := by
        rw [← hlog]
        exact log_files hs stamp _
      have hconsole : OnConsole logged.logger := by
        rw [← hlog, log_logger]
        exact hs
      rw [← hlogged]
      cases generate st text with
      | error e => exact isOf_fail e logged
      | ok sources => exact isOf_write stamp st.outputDir _ logged hconsole

/-- The module files of a run are different places. -/
theorem location_modules_settingsFor_ne (env : List (String × String)) (a : Args) (dir : Path) :
    (dir.child (settingsFor env a).typesFile).location ≠
      (dir.child (settingsFor env a).operationsFile).location := by
  have htypes : (settingsFor env a).typesModule = "models" := rfl
  have hoperations : (settingsFor env a).operationsModule = "api" := rfl
  refine Output.location_modules_ne ?_ ?_ ?_ dir
  · rw [htypes, hoperations]
    decide
  · rw [htypes]
    decide
  · rw [hoperations]
    decide

/-! ## A page in the working directory -/

/-- What plain lines of a file set: each is a name, an equals sign and a value. -/
def plainVariables (_ : List (String × String)) (t : Tree) :
    Except Mishap (List (String × String)) :=
  match t.read (Path.ofString ".env") with
  | .error _ => .ok []
  | .ok bytes =>
    .ok ((Text.lines (String.ofList (Charset.decodeUtf8 bytes))).filterMap fun line =>
      (Text.cut? ['='] line.toList).map fun (name, value) =>
        (String.ofList name, String.ofList value))

/-- A page with the record of a user. -/
def userPage : String :=
  "<h4>User</h4>\n<p>A person.</p>\n<tr>\n<td>id</td>\n<td>Integer</td>\n<td>Yes</td>\n</tr>"

/-- The page in the working directory, and the file that names it. -/
def userFiles : Tree := ⟨[
  (["page.html"], .file (Charset.encodeUtf8 userPage)),
  ([".env"], .file (Charset.encodeUtf8 "APIDOC_SOURCE=page.html\nAPIDOC_OUTPUT_DIR=out"))]⟩

/-- The section of the page. -/
def userSection : Reference.Section where
  title := some "User"
  note := some "A person."
  fields := [
    { name := some "id", phrase := some "Integer", type := some (.scalar "Int"),
      requirement := .required }]

/-- The settings of a run that finds all of this. -/
def userSettings : Settings := { source := "page.html", outputDir := "out" }

/-- The definitions of the page: the unions that are stated for every page, and the record. -/
def userDefinitions : List Definition := Definition.ofPage pageUnions [userSection]

/-- The modules of these definitions. -/
def userSources : Sources := Sources.ofDefinitions userSettings userDefinitions

/-- They are generated for the page. -/
theorem generate_userPage : generate userSettings userPage = .ok userSources := by
  have hscan : Reference.scan userSettings.options userPage =
      .ok ⟨[], .inSection userSection, 0⟩ := by decide +kernel
  have hfits : ∀ d ∈ userDefinitions, d.Fits userSettings.room.writing := by decide +kernel
  unfold generate
  rw [hscan]
  show Sources.write userSettings userDefinitions = _
  rw [Sources.write_eq, if_pos hfits]
  rfl

/-- A host that reads such a file and has no further charsets. -/
def userHost : Host := ⟨plainVariables, fun _ _ => none⟩

/-! ## Whole runs -/

section Runs

variable {host : Host} {stamp : String} {env : List (String × String)} {args : List String}
  {files : Tree} {a : Args}

/-- A run whose file of variables cannot be read ends there. -/
theorem run_of_mishap {mishap : Mishap} (hargs : Outcome.ofArgs args = .run a)
    (hmishap : host.dotenv env files = .error mishap) :
    run host stamp env args files =
      { files, stdout := "", stderr := "", status := .error (.outside mishap) } := by
  unfold run
  rw [hargs]
  dsimp only
  rw [hmishap]

/-- Any other run without a log file does what its settings say. -/
theorem isOf_run_of_dotenv {vars : List (String × String)} (hargs : Outcome.ofArgs args = .run a)
    (hlog : a.logFile.getD "" = "") (hvars : host.dotenv env files = .ok vars) :
    (run host stamp env args files).IsOf
      (deed host.charsets (settingsFor (extended env vars) a) files) := by
  obtain ⟨l, hsetup, hl⟩ :=
    setup_of_noFile hlog (levelFor (settingsFor (extended env vars) a) a) files
  unfold run
  rw [hargs]
  dsimp only
  rw [hvars]
  dsimp only
  rw [hsetup]
  exact isOf_run host.charsets stamp _ ⟨l, ⟨"", files⟩⟩ hl

end Runs

end ApiBindings.Command
