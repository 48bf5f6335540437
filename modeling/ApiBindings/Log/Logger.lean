import ApiBindings.Charset.Utf8
import ApiBindings.Error
import ApiBindings.Files.Tree
import ApiBindings.Log.Record
/-!
# Loggers

A logger hands each record that is important enough to its handlers: the console first, then one
file after another in the order in which they were named. A file is attached once, whatever detours
its path makes. Loggers rank by their names, which are made of parts between dots.
-/

namespace ApiBindings.Log

/-! ## Handlers -/

/-- Where records go: a file is known by its straight path. A detached file is one that has been
removed since it was opened. -/
inductive Sink where
  | console
  | file (path : Files.Path)
  | detached (path : Files.Path)
  deriving DecidableEq, Repr

/-- A sink and the least level that it takes. -/
structure Handler where
  sink : Sink
  level : Int
  deriving DecidableEq, Repr

/-- A logger with its handlers. -/
structure Logger where
  name : String
  level : Int := 0
  handlers : List Handler := []
  deriving DecidableEq, Repr

/-! ## Ranks -/

/-- The names above a name, nearest first, each with its characters last first, as the name itself
is given: it is cut at a dot, and the character before that dot cannot be the next place to cut. -/
def namesAboveAux : List Char → List (List Char)
  | [] | ['.'] => []
  | '.' :: c :: rest => (c :: rest) :: namesAboveAux rest
  | _ :: rest => namesAboveAux rest

/-- The names of the loggers above one with a given name, nearest first. -/
def namesAbove (name : String) : List String :=
  (namesAboveAux name.toList.reverse).map fun s => String.ofList s.reverse

/-- The logger above all others goes under two names. -/
def isTop (name : String) : Bool := name.isEmpty || name == "root"

/-- The level that a logger has from those above it: that of the library, which is the one for
information, if it stands below the library's own logger, and that of the top if it does not. The
top has none. -/
def inheritedLevel (name : String) : Int :=
  if isTop name then 0 else if (namesAbove name).contains rootName then info else warning

/-- The logger gets what is logged under its own name and under those that it stands above. -/
def Logger.hears (l : Logger) (source : String) : Bool :=
  source == l.name || isTop l.name || (namesAbove source).contains l.name

/-- The level that counts for what a logger hears: a level of zero leaves it to the loggers above.
Below the top the library keeps its own level. -/
def Logger.effectiveLevel (l : Logger) (source : String) : Int :=
  if isTop l.name && (source :: namesAbove source).contains rootName then info
  else if l.level = 0 then inheritedLevel l.name else l.level

/-! ## Set-up -/

/-- The sink has been opened for the file at a path. -/
def Sink.isFileAt (path : Files.Path) : Sink → Bool
  | .console => false
  | .file other | .detached other => other == path

/-- The logger with a console, if it has no handler yet. -/
def Logger.withConsole (l : Logger) : Logger :=
  if l.handlers.isEmpty then { l with handlers := [⟨.console, 0⟩] } else l

/-- The logger with the file that is named below a directory, which is opened if it is not attached
yet. What is opened is the straight path. -/
def Logger.attach (cwd : Files.Path) (file : String) (l : Logger) (t : Files.Tree) :
    Except Error (Logger × Files.Tree) :=
  let p := (cwd.child file).straight
  if l.handlers.any (·.sink.isFileAt p) then .ok (l, t)
  else if p.hasNul then .error .nulInPath
  else
    match t.openEnd p with
    | .error fault => .error (.unopenedLog fault)
    | .ok t => .ok ({ l with handlers := l.handlers ++ [⟨.file p, 0⟩] }, t)

/-- The logger with its level and that of every handler set. -/
def Logger.setLevel (level : Int) (l : Logger) : Logger :=
  { l with level, handlers := l.handlers.map ({ · with level }) }

/-- The logger with a console, a level, and a file if one is named; its name counts from the working
directory, which is `cwd` as the tree has it. -/
def Logger.setup (level : Int) (file : Option String) (l : Logger) (t : Files.Tree)
    (cwd : Files.Path := .here) : Except Error (Logger × Files.Tree) := do
  match file.filter (!·.isEmpty) with
  | none => return (l.withConsole.setLevel level, t)
  | some file =>
    let (l, t) ← l.withConsole.attach cwd file t
    return (l.setLevel level, t)

/-- The sink after the file at a location has been removed. -/
def Sink.detach (loc : Files.Location) : Sink → Sink
  | .file path => if path.location = loc then .detached path else .file path
  | sink => sink

/-- The logger after the file at a location has been removed: what it writes there is lost. -/
def Logger.detach (loc : Files.Location) (l : Logger) : Logger :=
  { l with handlers := l.handlers.map fun h => { h with sink := h.sink.detach loc } }

/-! ## Records -/

/-- What has been written: on the console, and in files. -/
structure Written where
  console : String
  files : Files.Tree
  deriving Repr

/-- A rendered record at a sink. -/
def Sink.put (line : String) (w : Written) : Sink → Written
  | .console => { w with console := w.console ++ line }
  | .file path => { w with files := w.files.append path.location (Charset.encodeUtf8 line) }
  | .detached _ => w

/-- A record that the logger hears handed to every handler that takes it; one of level zero or below
is always dropped. -/
def Logger.emit (stamp : String) (l : Logger) (w : Written) (r : Record) : Written :=
  if l.hears r.source && 0 < r.level && l.effectiveLevel r.source ≤ r.level then
    (l.handlers.filter (·.level ≤ r.level)).foldl (fun w h => h.sink.put (r.render stamp) w) w
  else w

/-- Several records, one after another. -/
def Logger.emitAll (stamp : String) (l : Logger) (w : Written) (rs : List Record) : Written :=
  rs.foldl (l.emit stamp) w

end ApiBindings.Log
