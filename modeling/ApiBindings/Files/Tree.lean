import ApiBindings.Files.Fault
import ApiBindings.Files.Path
/-!
# File trees

The files and directories that the library sees, as a value. The working directory, those above it
and the root always exist. Every operation gives the tree after it, or the fault that kept it from
happening.
-/

namespace ApiBindings.Files

/-- What a location holds. -/
inductive Entry where
  | file (content : List UInt8)
  | directory
  deriving DecidableEq, Repr

/-- A file system without links. -/
structure Tree where
  entries : List (Location × Entry)
  deriving DecidableEq, Repr

/-- The tree with nothing in its working directory. -/
def Tree.empty : Tree := ⟨[]⟩

/-! ## Entries -/

/-- The working directory, a directory above it, or the root. -/
def isAnchor (loc : Location) : Bool := loc == ["/"] || loc.all (· == "..")

/-- What a location holds, if it holds anything. -/
def Tree.find? (t : Tree) (loc : Location) : Option Entry :=
  if isAnchor loc then some .directory else t.entries.lookup loc

/-- The tree without what a location holds. -/
def Tree.erase (t : Tree) (loc : Location) : Tree := ⟨t.entries.filter (·.1 != loc)⟩

/-- The tree with an entry at a location. -/
def Tree.set (t : Tree) (loc : Location) (e : Entry) : Tree := ⟨(loc, e) :: (t.erase loc).entries⟩

/-! ## Finding the way -/

/-- The most bytes that a name can have. -/
def maxName : Nat := 255

/-- The most bytes that a path can have. -/
def maxPath : Nat := 4095

/-- The location to which names lead from a location: each step starts in a directory. -/
def Tree.walk (t : Tree) : Location → List String → Except Fault Location
  | loc, [] => .ok loc
  | loc, name :: rest =>
    match t.find? loc with
    | none => .error .missing
    | some (.file _) => .error .notDirectory
    | some .directory =>
      if maxName < name.utf8ByteSize then .error .nameTooLong else t.walk (descend loc name) rest

/-- The location of a path; the path's last name need not be there. -/
def Tree.locate (t : Tree) (p : Path) : Except Fault Location :=
  if maxPath < p.toString.utf8ByteSize then .error .nameTooLong else t.walk p.start p.parts

/-- What a path leads to, if it leads anywhere. A path whose way is blocked leads nowhere; only a
name that is too long is a fault. -/
def Tree.look (t : Tree) (p : Path) : Except Fault (Option Entry) :=
  match t.locate p with
  | .ok loc => .ok (t.find? loc)
  | .error .nameTooLong => .error .nameTooLong
  | .error _ => .ok none

/-! ## Files -/

/-- The bytes of a file. -/
def Tree.read (t : Tree) (p : Path) : Except Fault (List UInt8) := do
  match t.find? (← t.locate p) with
  | none => .error .missing
  | some .directory => .error .isDirectory
  | some (.file content) => return content

/-- The tree with new content in a file, which need not be there before. -/
def Tree.write (t : Tree) (p : Path) (content : List UInt8) : Except Fault Tree := do
  let loc ← t.locate p
  match t.find? loc with
  | some .directory => .error .isDirectory
  | _ => return t.set loc (.file content)

/-- The tree without a file. -/
def Tree.remove (t : Tree) (p : Path) : Except Fault Tree := do
  let loc ← t.locate p
  match t.find? loc with
  | none => .error .missing
  | some .directory => .error .isDirectory
  | some (.file _) => return t.erase loc

/-- The tree with more bytes at the end of the file at a location, if a file is there. -/
def Tree.append (t : Tree) (loc : Location) (bytes : List UInt8) : Tree :=
  match t.find? loc with
  | some (.file content) => t.set loc (.file (content ++ bytes))
  | _ => t

/-- The tree with a file to append to, which is made if it is not there. -/
def Tree.openEnd (t : Tree) (p : Path) : Except Fault Tree := do
  let loc ← t.locate p
  match t.find? loc with
  | some .directory => .error .isDirectory
  | some (.file _) => return t
  | none => return t.set loc (.file [])

/-! ## Directories -/

/-- The tree with a new directory. -/
def Tree.makeDirectory (t : Tree) (p : Path) : Except Fault Tree := do
  let loc ← t.locate p
  match t.find? loc with
  | some _ => .error .alreadyExists
  | none => return t.set loc .directory

/-- A fault in making a directory is none if the directory is there. -/
def Tree.excuse (t : Tree) (p : Path) (fault : Fault) : Tree × Option Fault :=
  match t.look p with
  | .ok (some .directory) => (t, none)
  | .ok _ => (t, some fault)
  | .error f => (t, some f)

/-- The tree with a directory whose names are given last first, and with those above it; what has
been made before a fault stays. -/
def Tree.makeAll (root : String) : List String → Tree → Tree × Option Fault
  | [], t =>
    match t.makeDirectory ⟨root, []⟩ with
    | .ok t => (t, none)
    | .error fault => t.excuse ⟨root, []⟩ fault
  | name :: above, t =>
    let p : Path := ⟨root, (name :: above).reverse⟩
    match t.makeDirectory p with
    | .ok t => (t, none)
    | .error .missing =>
      match Tree.makeAll root above t with
      | (t, some fault) => (t, some fault)
      | (t, none) =>
        match t.makeDirectory p with
        | .ok t => (t, none)
        | .error .missing => (t, some .missing)
        | .error fault => t.excuse p fault
    | .error fault => t.excuse p fault

/-- The tree with a directory and all those above it. -/
def Tree.makeDirectories (t : Tree) (p : Path) : Tree × Option Fault :=
  Tree.makeAll p.root p.parts.reverse t

end ApiBindings.Files
