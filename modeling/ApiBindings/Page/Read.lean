import ApiBindings.Charset.Basic
import ApiBindings.Charset.Declared
import ApiBindings.Error
import ApiBindings.Files.Tree
import ApiBindings.Log.Record
import ApiBindings.Text.Quoted
/-!
# Reading a saved page

A page is read in the charset that it declares, in UTF-8 if that charset is not known. Every line
end becomes a line feed.
-/

namespace ApiBindings.Page

open Files (Path Tree)

/-! ## Line ends -/

/-- The characters with one line feed for each line end; `read` holds those so far, last first. -/
def unifyAux (read : List Char) : List Char → List Char
  | [] => read.reverse
  | '\r' :: '\n' :: rest => unifyAux ('\n' :: read) rest
  | '\r' :: rest => unifyAux ('\n' :: read) rest
  | c :: rest => unifyAux (c :: read) rest

/-- The characters with one line feed for each line end. -/
def unifyLineEnds (s : List Char) : List Char := unifyAux [] s

/-! ## Pages -/

/-- A page as it was found. -/
structure Saved where
  path : Path
  bytes : List UInt8
  deriving Repr

/-- The label of the charset that the page declares. -/
def Saved.label (page : Saved) : String := Charset.declared page.bytes

/-- The characters of a page in the charset that it declares, if that charset is known. -/
def Saved.chars? (further : Charset.Registry) (page : Saved) : Option (Except Mishap (List Char)) :=
  Charset.read? further page.label page.bytes

/-- The text of a page. -/
def Saved.text (further : Charset.Registry) (page : Saved) : Except Error String :=
  if page.label.toList.contains '\x00' then .error .nulInCharset
  else
    match (page.chars? further).getD (.ok (Charset.decodeUtf8 page.bytes)) with
    | .ok chars => .ok (String.ofList (unifyLineEnds chars))
    | .error mishap => .error (.outside mishap)

/-- The page at a path. -/
def load (t : Tree) (path : String) : Except Error Saved :=
  let p := Path.ofString path
  if p.hasNul then .error .nulInPath
  else
    match t.read p with
    | .ok bytes => .ok ⟨p, bytes⟩
    | .error fault => .error (.unreadablePage p.toString fault)

/-- The text of the page at a path. -/
def read (further : Charset.Registry) (t : Tree) (path : String) : Except Error String := do
  (← load t path).text further

/-- The records about a page that has been read. -/
def Saved.report (further : Charset.Registry) (page : Saved) : List Log.Record :=
  (if (page.chars? further).isSome then []
    else
      [Log.Part.page.record Log.warning
        ("Unknown charset " ++ Text.quoted page.label ++ " declared in " ++ page.path.name ++
          ", decoding as utf-8")])
  ++ [Log.Part.page.record Log.info
    ("Read " ++ toString page.bytes.length ++ " bytes from " ++ page.path.toString ++ " (" ++
      page.label ++ ")")]

end ApiBindings.Page
