import HttpCourier.Url.Basic

/-!
# Resolving references

`Url.join` resolves a reference against the address it was found at (RFC 3986, section 5), for the
schemes whose addresses have a hierarchy. Parameters after a semicolon belong to the last segment
of a path; an empty query or fragment is dropped.
-/

namespace HttpCourier.Url

open Text

/-- The schemes against which a reference is resolved; the empty one is that of a reference. -/
def hierarchicalSchemes : List String :=
  ["", "ftp", "http", "gopher", "nntp", "imap", "wais", "file", "https", "shttp", "mms", "prospero",
    "rtsp", "rtspu", "sftp", "svn", "svn+ssh", "ws", "wss"]

/-- The schemes whose addresses name a host. -/
def hostSchemes : List String :=
  ["", "ftp", "http", "gopher", "nntp", "telnet", "imap", "wais", "file", "mms", "https", "shttp",
    "snews", "prospero", "rtsp", "rtspu", "rsync", "svn", "svn+ssh", "sftp", "nfs", "git", "git+ssh",
    "ws", "wss"]

/-- The schemes whose paths may have parameters. -/
def parameterSchemes : List String :=
  ["", "ftp", "hdl", "prospero", "http", "imap", "https", "shttp", "rtsp", "rtspu", "sip", "sips",
    "mms", "sftp", "tel"]

/-- The parts of a reference. -/
structure Reference where
  scheme : String
  authority : List Char
  path : List Char
  parameters : List Char
  query : List Char
  fragment : List Char

namespace Reference

/-- Splits the parameters off the last segment of a path. -/
def splitParameters (path : List Char) : List Char × List Char :=
  let last := (path.reverse.takeWhile (· != '/')).reverse
  match cut ';' last with
  | (name, some parameters) => (path.take (path.length - last.length) ++ name, parameters)
  | (_, none) => (path, [])

/-- The scheme of a reference, in small letters, and the rest; without one it has the given
scheme. -/
def splitOwnScheme (s : List Char) (scheme : String) : String × List Char :=
  match cut ':' s with
  | (c :: name, some rest) =>
    if isSchemeName (c :: name) then (lower (String.ofList (c :: name)), rest) else (scheme, s)
  | _ => (scheme, s)

/-- Splits a reference into its parts. -/
def ofText (s : List Char) (scheme : String) : Reference :=
  let (scheme, s) := splitOwnScheme s scheme
  let (authority, s) :=
    if ['/', '/'].isPrefixOf s then
      let inside (c : Char) := c != '/' && c != '?' && c != '#'
      ((s.drop 2).takeWhile inside, (s.drop 2).dropWhile inside)
    else ([], s)
  let (s, fragment) := cut '#' s
  let (s, query) := cut '?' s
  let (path, parameters) :=
    if parameterSchemes.contains scheme then splitParameters s else (s, [])
  { scheme, authority, path, parameters, query := query.getD [], fragment := fragment.getD [] }

/-- The text of a reference. -/
def toChars (r : Reference) : List Char :=
  let s := if r.parameters.isEmpty then r.path else r.path ++ [';'] ++ r.parameters
  let s :=
    if !r.authority.isEmpty
        || (!r.scheme.isEmpty && hostSchemes.contains r.scheme && !(['/', '/'].isPrefixOf s)) then
      let s := if !s.isEmpty && s.head? != some '/' then '/' :: s else s
      ['/', '/'] ++ r.authority ++ s
    else s
  let s := if r.scheme.isEmpty then s else r.scheme.toList ++ [':'] ++ s
  let s := if r.query.isEmpty then s else s ++ ['?'] ++ r.query
  if r.fragment.isEmpty then s else s ++ ['#'] ++ r.fragment

/-- Resolves the dot segments of a path: `..` drops the segment before it, if there is one. -/
def resolve (segments : List (List Char)) : List (List Char) :=
  let out := segments.foldl (fun out segment =>
    if segment = ['.', '.'] then out.dropLast
    else if segment = ['.'] then out
    else out ++ [segment]) []
  let last := segments.getLastD []
  if last = ['.'] ∨ last = ['.', '.'] then out ++ [[]] else out

/-- The segments of a path that is relative to another. -/
def segmentsOver (base path : List Char) : List (List Char) :=
  if path.head? = some '/' then splitOn '/' path
  else
    let parts := splitOn '/' base
    let parts := if parts.getLastD [] = [] then parts else parts.dropLast
    let all := parts ++ splitOn '/' path
    match all with
    | [] => []
    | [only] => [only]
    | first :: rest =>
      first :: (rest.dropLast.filter fun s => !s.isEmpty) ++ [rest.getLastD []]

/-- Resolves a reference. -/
def onto (base r : Reference) : Reference :=
  let r := if hostSchemes.contains r.scheme then { r with authority := base.authority } else r
  if r.path.isEmpty && r.parameters.isEmpty then
    { r with
      path := base.path, parameters := base.parameters,
      query := if r.query.isEmpty then base.query else r.query }
  else
    let path := List.intercalate ['/'] (resolve (segmentsOver base.path r.path))
    { r with path := if path.isEmpty then ['/'] else path }

end Reference

/-- Resolves a reference against an address, as texts. -/
def joinText (base text : List Char) : List Char :=
  if base.isEmpty then text
  else if text.isEmpty then base
  else
    let b := Reference.ofText base ""
    let r := Reference.ofText text b.scheme
    if r.scheme != b.scheme || !hierarchicalSchemes.contains r.scheme then text
    else if hostSchemes.contains r.scheme && !r.authority.isEmpty then r.toChars
    else (b.onto r).toChars

/-- Resolves a reference against an address. -/
def join (base u : Url) : Except Error Url :=
  parse (String.ofList (joinText (toString base).toList (toString u).toList))

end HttpCourier.Url
