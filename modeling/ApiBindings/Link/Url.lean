import ApiBindings.Link.Host
/-!
# Link targets

A link target taken apart into scheme, host, path, parameters, query and fragment, and put together
again. A target whose host is refused is refused.
-/

namespace ApiBindings.Link

/-- The parts of a target; a part that is missing is empty. -/
structure Url where
  scheme : List Char
  host : List Char
  path : List Char
  params : List Char
  query : List Char
  fragment : List Char
  deriving DecidableEq, Repr

/-! ## Schemes -/

/-- Schemes with a host. -/
def hostSchemes : List String := [
  "", "ftp", "http", "gopher", "nntp", "telnet", "imap", "wais", "file", "mms", "https", "shttp",
  "snews", "prospero", "rtsp", "rtsps", "rtspu", "rsync", "svn", "svn+ssh", "sftp", "nfs", "git",
  "git+ssh", "ws", "wss"]

/-- Schemes under which a target can be relative. -/
def relativeSchemes : List String := [
  "", "ftp", "http", "gopher", "nntp", "imap", "wais", "file", "https", "shttp", "mms", "prospero",
  "rtsp", "rtsps", "rtspu", "sftp", "svn", "svn+ssh", "ws", "wss"]

/-- Schemes whose paths end in parameters. -/
def paramSchemes : List String := [
  "", "ftp", "hdl", "prospero", "http", "imap", "https", "shttp", "rtsp", "rtsps", "rtspu", "sip",
  "sips", "mms", "sftp", "tel"]

/-- A character of a scheme. -/
def isSchemeChar (c : Char) : Bool :=
  Text.isAsciiLetter c || Text.isAsciiDigit c || c == '+' || c == '-' || c == '.'

/-- The scheme of a target, in lower case, and what follows its colon. -/
def splitScheme? (s : List Char) : Option (List Char × List Char) :=
  match Text.cut? [':'] s with
  | some (scheme, rest) =>
    if scheme.head?.any Text.isAsciiLetter && scheme.all isSchemeChar then
      some (scheme.map Text.asciiLower, rest)
    else none
  | none => none

/-! ## Reading and writing -/

/-- The parameters behind the first semicolon of the last segment. -/
def splitParams (path : List Char) : List Char × List Char :=
  let last := (path.reverse.takeWhile (· != '/')).reverse
  let before := path.take (path.length - last.length)
  let (segment, params) := splitAtMark ';' last
  (before ++ segment, params)

/-- A target without the control characters and spaces that it begins with, and without tabs and
line ends anywhere. -/
def cleaned (s : List Char) : List Char :=
  (s.dropWhile fun c => c.toNat ≤ 0x20).filter fun c => !(['\t', '\r', '\n'].contains c)

/-- The parts of a target that has the scheme `default` where it names none. -/
def Url.parse (default s : List Char) : Except Error Url :=
  let (scheme, afterScheme) := (splitScheme? (cleaned s)).getD (default, cleaned s)
  let (host, afterHost) := splitHost afterScheme
  let (beforeFragment, fragment) := splitAtMark '#' afterHost
  let (whole, query) := splitAtMark '?' beforeFragment
  let (path, params) :=
    if paramSchemes.contains (String.ofList scheme) then splitParams whole else (whole, [])
  match hostError? host with
  | some e => .error e
  | none => .ok { scheme, host, path, params, query, fragment }

/-- A part behind its mark; an empty part leaves no mark. -/
def marked (mark : Char) (part : List Char) : List Char :=
  if part.isEmpty then [] else mark :: part

/-- The text of a target. A host that is empty is shown if the scheme has hosts, unless the path
begins as if with one. -/
def Url.render (u : Url) : List Char :=
  let path := u.path ++ marked ';' u.params
  let hasHost := !u.host.isEmpty
    || (!u.scheme.isEmpty && hostSchemes.contains (String.ofList u.scheme)
      && !"//".toList.isPrefixOf path)
  let rooted := if path.isEmpty || path.head? == some '/' then path else '/' :: path
  let path := if hasHost then "//".toList ++ u.host ++ rooted else path
  (if u.scheme.isEmpty then path else u.scheme ++ ':' :: path)
    ++ marked '?' u.query ++ marked '#' u.fragment

end ApiBindings.Link
