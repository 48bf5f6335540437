import ApiBindings.Command.Args
import ApiBindings.Generator
import ApiBindings.Log.Logger
import ApiBindings.Output.Write
import ApiBindings.Page.Read
/-!
# The command

One run: the page is read, both modules are generated and written, and a single line says whether
that went well. What is logged goes to the console and, if one is named, into a file. Two parts of a
run are not of this library and come with its host: the file of variables that is read beside the
environment, and the charsets that the library does not have itself.
-/

namespace ApiBindings.Command

open Files (Tree)

/-! ## Hosts -/

/-- What a run finds where it runs, apart from its environment and the files. -/
structure Host where
  /-- The variables that a file beside the environment sets, each of them once, or how reading it
  fails. Where there is no such file it sets none. -/
  dotenv : List (String × String) → Tree → Except Mishap (List (String × String))
  /-- The charsets beside those of this library. -/
  charsets : Charset.Registry

/-- A host with neither. -/
def Host.bare : Host := ⟨fun _ _ => .ok [], fun _ _ => none⟩

/-- The environment with further variables. One that is set already stays as it is, also where it is
empty. -/
def extended (env further : List (String × String)) : List (String × String) :=
  env ++ further.filter fun v => (env.lookup v.1).isNone

/-! ## Settings -/

/-- The settings of a run: arguments count before the environment. -/
def settingsFor (env : List (String × String)) (a : Args) : Settings :=
  let s := Settings.ofEnvironment env
  { s with
    source := a.source.getD s.source
    outputDir := a.outputDir.getD s.outputDir
    fastInitialization := s.fastInitialization && !a.noFastInit }

/-- The level of a run's log. -/
def levelFor (s : Settings) (a : Args) : Int := if a.verbose then Log.debug else s.logLevel

/-- The library's logger before a run: it has its console and the level for information. -/
def initialLogger : Log.Logger :=
  { name := Log.rootName, level := Log.info, handlers := [⟨.console, Log.info⟩] }

/-- The variables of the environment that a run looks at. -/
def environmentNames : List String :=
  ["APIDOC_SOURCE", "APIDOC_OUTPUT_DIR", "APIDOC_BASE_URL", "APIDOC_LOG_LEVEL"]

/-- The locations that a run can look at or change. -/
def reach (env : List (String × String)) (args : List String) : List Files.Location :=
  match Outcome.ofArgs args with
  | .help | .misuse => []
  | .run a =>
    let s := settingsFor env a
    let dir := Files.Path.ofString s.outputDir
    let paths := [Files.Path.ofString s.source, dir, dir.child s.typesFile,
      dir.child s.operationsFile]
      ++ (a.logFile.map fun file => (Files.Path.ofString file).straight).toList
    (paths.filter (!·.hasNul)).flatMap (·.way)

/-! ## Runs -/

/-- A run so far. -/
structure Session where
  logger : Log.Logger
  written : Log.Written
  deriving Repr

/-- How a run ends: with an exit status, or with an error that it does not answer for. -/
structure Ending where
  files : Tree
  stdout : String
  stderr : String
  status : Except Error Nat

/-- The session with some records logged. -/
def Session.log (stamp : String) (rs : List Log.Record) (s : Session) : Session :=
  { s with written := s.logger.emitAll stamp s.written rs }

/-- The session with other files. -/
def Session.withFiles (files : Tree) (s : Session) : Session :=
  { s with written := { s.written with files } }

/-- The end of a session with a line on standard output. -/
def Session.finish (line : String) (status : Nat) (s : Session) : Ending :=
  { files := s.written.files, stdout := line ++ "\n", stderr := s.written.console,
    status := .ok status }

/-- Errors that a run reports as a failure; all others end it. -/
def isReported : Error → Bool
  | .unreadablePage _ _ | .unmadeDirectory _ _ | .unwrittenModule _ _ => true
  | _ => false

/-- The end of a session by an error. -/
def Session.fail (e : Error) (s : Session) : Ending :=
  if isReported e then s.finish ("Failed: " ++ e.message) 1
  else { files := s.written.files, stdout := "", stderr := s.written.console, status := .error e }

/-- The modules put in their places, each step logged; a log file that is replaced gets no more
records. -/
def Session.place (stamp : String) (dir : Files.Path) :
    List (String × String) → Session → Session × Option Error
  | [], s => (s, none)
  | (file, text) :: rest, s =>
    let path := dir.child file
    let placed := Output.place s.written.files path text
    let s := s.withFiles placed.files
    let s := { s with logger := (placed.removed.map s.logger.detach).getD s.logger }
    let s := s.log stamp (placed.report path text)
    match placed.failure with
    | some e => (s, some e)
    | none => s.place stamp dir rest

/-- The modules written, each step logged. -/
def Session.write (stamp : String) (dir : String) (texts : List (String × String)) (s : Session) :
    Session × Option Error :=
  let dir := Files.Path.ofString dir
  match Output.prepare s.written.files dir with
  | (files, some e) => (s.withFiles files, some e)
  | (files, none) => (s.withFiles files).place stamp dir texts

/-- A session from the reading of the page to the end. -/
def Session.run (further : Charset.Registry) (stamp : String) (settings : Settings) (s : Session) :
    Ending :=
  match Page.load s.written.files settings.source with
  | .error e => s.fail e
  | .ok page =>
    match page.text further with
    | .error e => s.fail e
    | .ok text =>
      let s := s.log stamp (page.report further ++ generateReport settings text)
      match generate settings text with
      | .error e => s.fail e
      | .ok sources =>
        match s.write stamp settings.outputDir
          [(settings.typesFile, sources.types), (settings.operationsFile, sources.operations)] with
        | (s, some e) => s.fail e
        | (s, none) => s.finish "Success!" 0

/-- How the arguments are to be used. -/
def usage : String :=
  "usage: apidoc-codegen [-h] [--output-dir OUTPUT_DIR] [--verbose] [--log-file LOG_FILE]\n"
    ++ "                      [--no-fast-init] [source]\n"

/-- One run of the command: what it leaves, prints and logs. -/
def run (host : Host) (stamp : String) (env : List (String × String)) (args : List String)
    (files : Tree) : Ending :=
  match Outcome.ofArgs args with
  | .help => { files, stdout := usage, stderr := "", status := .ok 0 }
  | .misuse => { files, stdout := "", stderr := usage, status := .ok 2 }
  | .run a =>
    match host.dotenv env files with
    | .error mishap => { files, stdout := "", stderr := "", status := .error (.outside mishap) }
    | .ok further =>
      let settings := settingsFor (extended env further) a
      match initialLogger.setup (levelFor settings a) a.logFile files with
      | .error e => { files, stdout := "", stderr := "", status := .error e }
      | .ok (logger, files) =>
        Session.run host.charsets stamp settings { logger, written := { console := "", files } }

end ApiBindings.Command
