import ApiBindings.Text.Affix
import ApiBindings.Text.CharClass
/-!
# Command line arguments

`[source] [-o DIR] [-v] [--log-file FILE] [--no-fast-init]`. Long options may be shortened as long
as they stay unambiguous and take their value behind an equals sign or as the next argument; short
options can share a dash. Behind `--` nothing is an option.
-/

namespace ApiBindings.Command

/-! ## Options -/

/-- The options. -/
inductive Flag where
  | help
  | outputDir
  | verbose
  | logFile
  | noFastInit
  deriving DecidableEq, Repr

/-- The option has a value. -/
def Flag.takesValue : Flag → Bool
  | .outputDir | .logFile => true
  | .help | .verbose | .noFastInit => false

/-- The long names of the options. -/
def longNames : List (String × Flag) := [
  ("--help", .help), ("--output-dir", .outputDir), ("--verbose", .verbose),
  ("--log-file", .logFile), ("--no-fast-init", .noFastInit)]

/-- The letters of the options. -/
def letters : List (Char × Flag) := [('h', .help), ('o', .outputDir), ('v', .verbose)]

/-- What the arguments ask for. -/
structure Args where
  source : Option String := none
  outputDir : Option String := none
  verbose : Bool := false
  logFile : Option String := none
  noFastInit : Bool := false
  deriving DecidableEq, Repr

/-- How reading the arguments ends. -/
inductive Outcome where
  | run (args : Args)
  | help
  | misuse
  deriving DecidableEq, Repr

/-! ## Words -/

/-- What one argument is taken for. -/
inductive Word where
  /-- A source, or the value of the option before it. -/
  | plain (s : String)
  /-- The end of the options. -/
  | dashes
  /-- An option, by its letter or by name, and the text attached to it. -/
  | flag (f : Flag) (byLetter : Bool) (attached : Option String)
  /-- Something like an option that there is not. -/
  | unknown
  /-- The beginning of several options' names. -/
  | ambiguous
  deriving DecidableEq, Repr

/-- A text without the line feed that it may end in. -/
def dropLineFeed (s : List Char) : List Char := if s.getLast? == some '\n' then s.dropLast else s

/-- A dash and a decimal number, which is no option. -/
def isNegativeNumber (s : List Char) : Bool :=
  match dropLineFeed s with
  | '-' :: rest =>
    match rest.dropWhile Text.isDecimal with
    | [] => !rest.isEmpty
    | '.' :: fraction => !fraction.isEmpty && fraction.all Text.isDecimal
    | _ => false
  | _ => false

/-- The options whose long names begin with a text. -/
def longMatches (start : List Char) : List Flag :=
  (longNames.filter fun n => start.isPrefixOf n.1.toList).map (·.2)

/-- What is taken for an option's name, and what is attached to it by an equals sign. -/
def splitAttached (s : List Char) : List Char × Option String :=
  match Text.cut? ['='] s with
  | none => (s, none)
  | some (name, attached) => (name, some (String.ofList attached))

/-- What an argument that is no option's name is taken for. -/
def otherWord (s : List Char) : Word :=
  if isNegativeNumber s || s.contains ' ' then .plain (String.ofList s) else .unknown

/-- What an argument is taken for. -/
def Word.ofChars (s : List Char) : Word :=
  let (name, attached) := splitAttached s
  match s with
  | '-' :: '-' :: _ =>
    match longNames.lookup (String.ofList name) with
    | some f => .flag f false attached
    | none =>
      match longMatches name with
      | [] => otherWord s
      | [f] => .flag f false attached
      | _ => .ambiguous
  | '-' :: c :: rest =>
    match letters.lookup c with
    | none => otherWord s
    | some f =>
      .flag f true (if name == ['-', c] then attached
        else if rest.isEmpty then none else some (String.ofList rest))
  | _ => .plain (String.ofList s)

/-- What the arguments are taken for. -/
def Word.ofArgs : List String → List Word
  | [] => []
  | "--" :: rest => .dashes :: rest.map .plain
  | s :: rest => .ofChars s.toList :: Word.ofArgs rest

/-! ## Reading -/

/-- The arguments with an option, and its value if it has one. -/
def Args.apply (f : Flag) (value : Option String) (a : Args) : Args :=
  match f with
  | .help => a
  | .outputDir => { a with outputDir := value }
  | .verbose => { a with verbose := true }
  | .logFile => { a with logFile := value }
  | .noFastInit => { a with noFastInit := true }

/-- The options that share a dash with one that takes no value, `s` being the letters behind it:
those without a value, and the last one if it takes one, with what is attached to it. -/
def cluster? : List Char → Option (List Flag × Option (Flag × Option String))
  | [] => some ([], none)
  | c :: rest =>
    match letters.lookup c with
    | none => none
    | some f =>
      if f.takesValue then
        some ([], some (f, if rest.isEmpty then none else some (String.ofList rest)))
      else (cluster? rest).map fun (fs, last) => (f :: fs, last)

/-- Where the reader of the arguments stands: what it has, whether a source can still come, and
whether something came that nothing asks for. -/
structure Reader where
  args : Args := {}
  sourceSeen : Bool := false
  surplus : Bool := false
  deriving DecidableEq, Repr

/-- The options that one word sets, the value that the last of them is waiting for included;
nothing if the word is misused. -/
def flagsOf? (f : Flag) (byLetter : Bool) (attached : Option String) :
    Option (List Flag × Option (Flag × Option String)) :=
  if f.takesValue then some ([], some (f, attached))
  else
    match attached with
    | none => some ([f], none)
    | some s =>
      if byLetter && !s.isEmpty then
        (cluster? s.toList).map fun (fs, last) => (f :: fs, last)
      else none

/-- The reader after options without a value. -/
def Reader.set (fs : List Flag) (r : Reader) : Reader :=
  { r with args := fs.foldl (fun a f => a.apply f none) r.args }

/-- The value that an attached text gives: two dashes give none, and take an earlier one back. -/
def attachedValue (s : String) : Option String := if s = "--" then none else some s

/-- The rest of the words read. -/
def Reader.read (r : Reader) : List Word → Outcome
  | [] => if r.surplus then .misuse else .run r.args
  | .plain s :: .dashes :: rest =>
    if r.sourceSeen then { r with surplus := true }.read rest
    else { r with args := { r.args with source := some s }, sourceSeen := true }.read rest
  | .plain s :: rest =>
    if r.sourceSeen then { r with surplus := true }.read rest
    else { r with args := { r.args with source := some s }, sourceSeen := true }.read rest
  | .dashes :: .plain s :: rest =>
    if r.sourceSeen then { r with surplus := true }.read rest
    else { r with args := { r.args with source := some s }, sourceSeen := true }.read rest
  | .dashes :: rest => { r with sourceSeen := true, surplus := r.surplus || r.sourceSeen }.read rest
  | .unknown :: rest => { r with surplus := true }.read rest
  | .ambiguous :: _ => .misuse
  | .flag f byLetter attached :: rest =>
    match flagsOf? f byLetter attached with
    | none => .misuse
    | some (fs, none) => if fs.contains .help then .help else (r.set fs).read rest
    | some (fs, some (g, some attached)) =>
      if fs.contains .help then .help
      else { r.set fs with args := (r.set fs).args.apply g (attachedValue attached) }.read rest
    | some (fs, some (g, none)) =>
      match rest with
      | .plain value :: rest =>
        if fs.contains .help then .help
        else { r.set fs with args := (r.set fs).args.apply g (some value) }.read rest
      | _ => .misuse

/-- What the arguments ask for. -/
def Outcome.ofArgs (args : List String) : Outcome :=
  let ws := Word.ofArgs args
  if ws.contains .ambiguous then .misuse else Reader.read {} ws

end ApiBindings.Command
