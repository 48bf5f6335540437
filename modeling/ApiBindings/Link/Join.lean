import ApiBindings.Link.Url
/-!
# Relative links

The target that a link means on a page with a given address: absolute links stay, and relative ones
are resolved against the path of the page.
-/

namespace ApiBindings.Link

/-! ## Paths -/

/-- The segments that are left when `.` goes and `..` takes the segment before it along; `kept`
holds the segments so far, last first. -/
def climb (kept : List (List Char)) : List (List Char) → List (List Char)
  | [] => kept.reverse
  | s :: rest =>
    if s == "..".toList then climb kept.tail rest
    else if s == ".".toList then climb kept rest
    else climb (s :: kept) rest

/-- The segments with the empty ones between the first and the last left out. -/
def dropInnerEmpty : List (List Char) → List (List Char)
  | [] => []
  | first :: rest =>
    match rest.getLast? with
    | none => [first]
    | some last => first :: (rest.dropLast.filter (!·.isEmpty) ++ [last])

/-- The segments of the directory that a path leads to. -/
def directory (path : List Char) : List (List Char) :=
  let segments := Text.pieces (· == '/') path
  if segments.getLast? == some [] then segments else segments.dropLast

/-- The path that `path` means below the page at `base`. -/
def joinPath (base path : List Char) : List Char :=
  let own := Text.pieces (· == '/') path
  let segments :=
    if path.head? == some '/' then own else dropInnerEmpty (directory base ++ own)
  let last := segments.getLast?.getD []
  let closing := if last == ".".toList || last == "..".toList then [[]] else []
  let joined := List.intercalate ['/'] (climb [] segments ++ closing)
  if joined.isEmpty then ['/'] else joined

/-! ## Targets -/

/-- The target that `href` means on the page at `base`. -/
def join (base href : List Char) : Except Error (List Char) :=
  if base.isEmpty then .ok href
  else if href.isEmpty then .ok base
  else do
    let page ← Url.parse [] base
    let target ← Url.parse page.scheme href
    if target.scheme != page.scheme
        || !relativeSchemes.contains (String.ofList target.scheme) then
      return href
    let hasHosts := hostSchemes.contains (String.ofList target.scheme)
    if hasHosts && !target.host.isEmpty then return target.render
    let host := if hasHosts then page.host else target.host
    if target.path.isEmpty && target.params.isEmpty then
      let query := if target.query.isEmpty then page.query else target.query
      return { target with host, path := page.path, params := page.params, query }.render
    return { target with host, path := joinPath page.path target.path }.render

end ApiBindings.Link
