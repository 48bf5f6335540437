import ApiBindings.Text.Pieces
/-!
# Paths

A path is a root, which is empty for a relative one, and the names that lead on from there. Empty
names and single dots do not count; two dots do, since they lead up from wherever the path has
come to.
-/

namespace ApiBindings.Files

/-- A path to a file or a directory. -/
structure Path where
  root : String
  parts : List String
  deriving DecidableEq, Repr

/-- The path that a text spells. -/
def Path.ofString (s : String) : Path :=
  let slashes := s.toList.takeWhile (· == '/')
  { root := if slashes.length = 0 then "" else if slashes.length = 2 then "//" else "/"
    parts := ((Text.pieces (· == '/') s.toList).filter fun p =>
      !p.isEmpty && p != ['.']).map String.ofList }

/-- The shortest text that spells the path. -/
def Path.toString (p : Path) : String :=
  if p.root.isEmpty && p.parts.isEmpty then "."
  else p.root ++ String.intercalate "/" p.parts

/-- The last name of a path. -/
def Path.name (p : Path) : String := p.parts.getLastD ""

/-- The working directory, by no name of its own. -/
def Path.here : Path := ⟨"", []⟩

/-- The path that `s` spells below the directory `p`. -/
def Path.child (p : Path) (s : String) : Path :=
  let q := Path.ofString s
  if q.root.isEmpty then { p with parts := p.parts ++ q.parts } else q

/-- The path leads to nothing that an operating system can hold. -/
def Path.hasNul (p : Path) : Bool := p.parts.any fun n => n.toList.contains '\x00'

/-! ## Locations -/

/-- A place in the file system, seen from the working directory: names that lead down, behind
two-dot names that lead up, or behind the name `/` of the root. -/
abbrev Location := List String

/-- The location of the directory that holds a location. -/
def parentOf (loc : Location) : Location :=
  match loc.getLast? with
  | none => [".."]
  | some ".." => loc ++ [".."]
  | some "/" => loc
  | some _ => loc.dropLast

/-- The location to which one more name leads. -/
def descend (loc : Location) (name : String) : Location :=
  if name = ".." then parentOf loc else loc ++ [name]

/-- Where a path begins. -/
def Path.start (p : Path) : Location := if p.root.isEmpty then [] else ["/"]

/-- The location of a path by its names alone. -/
def Path.location (p : Path) : Location := p.parts.foldl descend p.start

/-- The path that leads straight to a location. -/
def Path.ofLocation : Location → Path
  | "/" :: names => ⟨"/", names⟩
  | names => ⟨"", names⟩

/-- The path to the same location without detours: a name goes with the two dots behind it, whether
it is there or not. The root stays as it is spelled. -/
def Path.straight (p : Path) : Path := { Path.ofLocation p.location with root := p.root }

/-- The locations that names pass through from a location on, that one first. -/
def wayFrom (loc : Location) : List String → List Location
  | [] => [loc]
  | name :: rest => loc :: wayFrom (descend loc name) rest

/-- The locations that a path passes through, from its beginning to its end. -/
def Path.way (p : Path) : List Location := wayFrom p.start p.parts

/-- The text of a location. -/
def showLocation (loc : Location) : String := (Path.ofLocation loc).toString

end ApiBindings.Files
