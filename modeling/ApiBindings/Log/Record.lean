/-!
# Log records

A record says which part of the library speaks, how important it is and what it has to say. The
parts speak under the name of the library and their own.
-/

namespace ApiBindings.Log

/-! ## Levels -/

def debug : Int := 10

def info : Int := 20

def warning : Int := 30

def error : Int := 40

def critical : Int := 50

/-- The name under which a level is shown. -/
def levelName (level : Int) : String :=
  if level = critical then "CRITICAL"
  else if level = error then "ERROR"
  else if level = warning then "WARNING"
  else if level = info then "INFO"
  else if level = debug then "DEBUG"
  else if level = 0 then "NOTSET"
  else "Level " ++ toString level

/-! ## Records -/

/-- One message of the logger `source`. -/
structure Record where
  source : String
  level : Int
  message : String
  deriving DecidableEq, Repr

/-- The text of a record behind the stamp that the clock gives it. -/
def Record.render (stamp : String) (r : Record) : String :=
  stamp ++ r.source ++ " - " ++ levelName r.level ++ " - " ++ r.message ++ "\n"

/-! ## Parts of the library -/

/-- The parts of the library that keep a log. -/
inductive Part where
  | page
  | markup
  | scan
  | definitions
  | bindings
  | output
  | run
  deriving DecidableEq, Repr

/-- The name of the library's logger. -/
def rootName : String := "apidoc_codegen"

/-- The name of a part's logger. -/
def Part.loggerName : Part → String
  | .page => rootName ++ ".source"
  | .markup => rootName ++ ".normalizer"
  | .scan => rootName ++ ".scanner"
  | .definitions => rootName ++ ".classifier"
  | .bindings => rootName ++ ".synthesizer"
  | .output => rootName ++ ".writer"
  | .run => rootName ++ ".main"

/-- What a part says at a level. -/
def Part.record (part : Part) (level : Int) (message : String) : Record :=
  ⟨part.loggerName, level, message⟩

end ApiBindings.Log
