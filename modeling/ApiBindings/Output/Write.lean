import ApiBindings.Charset.Utf8
import ApiBindings.Error
import ApiBindings.Files.Tree
import ApiBindings.Log.Record
/-!
# Writing the generated modules

The output directory is made if it is missing; then each module takes the place of the file that was
there before, types first. An error leaves what has been done before it.
-/

namespace ApiBindings.Output

open Files (Path Tree Location)

/-- What came of putting one text in its place. -/
structure Placed where
  /-- The files afterwards. -/
  files : Tree
  /-- Where a former file was removed. -/
  removed : Option Location := none
  /-- Why the text is not in its place, if it is not. -/
  failure : Option Error := none

/-- The text in place of a file that may have been there before. -/
def place (t : Tree) (p : Path) (text : String) : Placed :=
  if p.hasNul then { files := t, failure := some .nulInPath }
  else
    let fail (t : Tree) (removed : Option Location) (fault : Files.Fault) : Placed :=
      { files := t, removed, failure := some (.unwrittenModule p.toString fault) }
    let fill (t : Tree) (removed : Option Location) : Placed :=
      match t.write p (Charset.encodeUtf8 text) with
      | .ok t => { files := t, removed }
      | .error fault => fail t removed fault
    match t.look p with
    | .error fault => fail t none fault
    | .ok none => fill t none
    | .ok (some _) =>
      match t.remove p, t.locate p with
      | .ok t', .ok loc => fill t' (some loc)
      | .ok t', .error _ => fill t' none
      | .error fault, _ => fail t none fault

/-- The records about a text that has been put in its place. -/
def Placed.report (placed : Placed) (p : Path) (text : String) : List Log.Record :=
  (if placed.removed.isSome then
    [Log.Part.output.record Log.debug ("Removed previous " ++ p.toString)] else [])
  ++ (if placed.failure.isNone then
    [Log.Part.output.record Log.info
      ("Wrote " ++ toString text.length ++ " characters to " ++ p.toString)] else [])

/-- The output directory, made if it is missing. -/
def prepare (t : Tree) (dir : Path) : Tree × Option Error :=
  if dir.hasNul then (t, some .nulInPath)
  else
    match t.makeDirectories dir with
    | (t, none) => (t, none)
    | (t, some fault) => (t, some (.unmadeDirectory dir.toString fault))

/-- Texts put in their places below a directory, until one of them fails. -/
def placeAll (t : Tree) (dir : Path) : List (String × String) → Tree × Option Error
  | [] => (t, none)
  | (file, text) :: rest =>
    let placed := place t (dir.child file) text
    match placed.failure with
    | some e => (placed.files, some e)
    | none => placeAll placed.files dir rest

/-- Named texts put into a directory: the files afterwards, and the paths of the texts or an
error. -/
def write (t : Tree) (dir : String) (texts : List (String × String)) :
    Tree × Except Error (List Path) :=
  let dir := Path.ofString dir
  match prepare t dir with
  | (t, some e) => (t, .error e)
  | (t, none) =>
    match placeAll t dir texts with
    | (t, some e) => (t, .error e)
    | (t, none) => (t, .ok (texts.map fun (file, _) => dir.child file))

end ApiBindings.Output
