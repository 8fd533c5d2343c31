import CallGraph.Url.Host

/-!
# URLs

A URL has a scheme, an authority if there is one, a path, a query and a fragment. Schemes with
servers always have a host and a path of segments; backslashes count as slashes there. Any other
scheme may have a path that is plain text.

Reading brings a URL into its normal form: the scheme and a domain in lower case, the usual port of
the scheme left out, segments of dots resolved, and characters percent-encoded where they must be.

* `Url.parse?` reads a URL and `Url.text` writes it.
-/

namespace CallGraph

/-- What kind of URL a scheme has. -/
inductive SchemeKind
  /-- There are servers, with a usual port. -/
  | served (port : Nat)
  /-- Files of a host. -/
  | files
  | other
deriving DecidableEq, Repr

namespace SchemeKind

/-- The kinds of the schemes that have their own rules. -/
def ofScheme : String → SchemeKind
  | "http" | "ws" => served 80
  | "https" | "wss" => served 443
  | "ftp" => served 21
  | "file" => files
  | _ => other

/-- Backslashes count as slashes. -/
def isSpecial (kind : SchemeKind) : Bool := kind ≠ other

/-- The port that need not be written. -/
def usualPort? : SchemeKind → Option Nat
  | served port => some port
  | _ => none

end SchemeKind

/-- The user, the host and the port. -/
structure Authority where
  user : String := ""
  password : String := ""
  host : Url.Host
  port : Option Nat := none
deriving DecidableEq, Repr

/-- A path of a URL, in its written form. -/
inductive UrlPath
  | segments (names : List String)
  /-- A path without segments, of a scheme that gives it its own meaning. -/
  | plain (text : String)
deriving DecidableEq, Repr

/-- A URL; all texts are in their written form. -/
structure Url where
  scheme : String
  authority : Option Authority
  path : UrlPath
  query : Option String
  fragment : Option String
deriving DecidableEq, Repr

/-! ## Writing -/

/-- The authority as it is written. -/
def Authority.text (a : Authority) : String :=
  let password := if a.password = "" then "" else ":" ++ a.password
  let user := if a.user = "" ∧ a.password = "" then "" else a.user ++ password ++ "@"
  let port :=
    match a.port with
    | none => ""
    | some port => ":" ++ toString port
  user ++ a.host.text ++ port

/-- The path as it is written. -/
def UrlPath.text : UrlPath → String
  | segments names => String.join (names.map ("/" ++ ·))
  | plain text => text

namespace Url

/-- What separates the scheme from the path. A path that begins with two slashes is kept from
being read as an authority. -/
def authorityText (url : Url) : String :=
  match url.authority, url.path with
  | some a, _ => "//" ++ a.text
  | none, .segments ("" :: _ :: _) => "/."
  | none, _ => ""

/-- A part that follows a mark, if there is one. -/
def markedText (mark : String) : Option String → String
  | none => ""
  | some text => mark ++ text

/-- The URL as it is written. -/
def text (url : Url) : String :=
  url.scheme ++ ":" ++ url.authorityText ++ url.path.text ++ markedText "?" url.query ++
    markedText "#" url.fragment

/-! ## Reading -/

/-- The text without blanks and control characters at its ends, and without line breaks and
tabs. -/
def clean (s : String) : List Char :=
  let blank (c : Char) : Bool := decide (c.toNat ≤ 0x20)
  let trimmed := ((s.toList.dropWhile blank).reverse.dropWhile blank).reverse
  trimmed.filter fun c => ¬['\t', '\n', '\r'].contains c

/-- The two parts around the first mark. -/
def cutAt (mark : Char) (cs : List Char) : List Char × Option (List Char) :=
  match cs.span (· ≠ mark) with
  | (before, []) => (before, none)
  | (before, _ :: after) => (before, some after)

/-- The scheme in lower case, and what follows its colon. -/
def splitScheme? (cs : List Char) : Option (String × List Char) :=
  match cs.head?, cutAt ':' cs with
  | some first, (name, some rest) =>
    if first.isAlpha ∧ name.all (fun c => c.isAlphanum || ['+', '-', '.'].contains c) then
      some (String.ofList (name.map Char.toLower), rest)
    else none
  | _, _ => none

/-- The character separates segments. -/
def isSlash (kind : SchemeKind) (c : Char) : Bool := c = '/' || (kind.isSpecial && c = '\\')

/-- The host and, after a colon outside brackets, the port. -/
def splitPort : (inBrackets : Bool) → List Char → List Char × Option (List Char)
  | _, [] => ([], none)
  | inBrackets, c :: cs =>
    if c = ':' ∧ ¬inBrackets then ([], some cs)
    else
      let inBrackets := if c = '[' then true else if c = ']' then false else inBrackets
      let (host, port) := splitPort inBrackets cs
      (c :: host, port)

/-- A port in decimal digits; none if there are no digits or it is the usual one. -/
def port? (kind : SchemeKind) (digits : List Char) : Option (Option Nat) :=
  if digits.isEmpty then some none
  else if digits.all Char.isDigit then
    match Text.number? 10 digits with
    | some port =>
      if 65535 < port then none
      else if kind.usualPort? = some port then some none
      else some (some port)
    | none => none
  else none

/-- The text before the last at sign, if there is one, and the text after it. -/
def splitUser (cs : List Char) : Option (List Char) × List Char :=
  match cs.reverse.span (· ≠ '@') with
  | (_, []) => (none, cs)
  | (host, _ :: user) => (some user.reverse, host.reverse)

/-- An authority without a host: neither user nor port, and an at sign only at the end of the
URL. -/
def noHost? (user : Option (List Char)) (hasPort atEnd : Bool) : Option Authority :=
  if hasPort then none
  else
    match user with
    | none | some [':'] => some { host := .name "" }
    | some [] => if atEnd then some { host := .name "" } else none
    | some _ => none

/-- Reads an authority, and gives what follows a port up to the next slash: a backslash ends a port
even where it is no slash. Only a scheme without servers can do without a host. `atEnd` tells that
the URL ends with the authority. -/
def authority? (kind : SchemeKind) (atEnd : Bool) (cs : List Char) :
    Option (Authority × List Char) := do
  let (user, located) := splitUser cs
  let (host, portText) := splitPort false located
  let (digits, rest) := (portText.getD []).span (· ≠ '\\')
  let port ← port? kind digits
  if host.isEmpty then
    if kind.isSpecial then none
    else do
      let authority ← noHost? user portText.isSome atEnd
      return (authority, rest)
  else do
    let host ← if kind.isSpecial then Host.parse? host else Host.parseName? host
    let (name, password) := cutAt ':' (user.getD [])
    let user := String.ofList (Percent.encode Percent.userinfo name)
    let password := String.ofList (Percent.encode Percent.userinfo (password.getD []))
    return ({ user, password, host, port }, rest)

/-- The host of files; the own host is left out. -/
def fileHost? (cs : List Char) : Option Host :=
  if cs.isEmpty then some (.name "")
  else (Host.parse? cs).map fun host => if host = .name "localhost" then .name "" else host

/-! ## Paths -/

/-- The segment stands for the directory itself. -/
def isDot (segment : List Char) : Bool :=
  ["." , "%2e"].contains (String.ofList (segment.map Char.toLower))

/-- The segment stands for the directory around. -/
def isDoubleDot (segment : List Char) : Bool :=
  ["..", ".%2e", "%2e.", "%2e%2e"].contains (String.ofList (segment.map Char.toLower))

/-- The segment names a drive: a letter, and a colon or a bar. -/
def isDrive : List Char → Bool
  | [letter, mark] => letter.isAlpha && (mark = ':' || mark = '|')
  | _ => false

/-- The segments around the last one, all with the last one first; nothing is around a drive. -/
def around : List String → List String
  | [] => []
  | last :: before => if isDrive last.toList then last :: before else before

/-- A segment as it is written. A drive that begins the path of a file has a colon. -/
def segmentText (kind : SchemeKind) (done : List String) (segment : List Char) : String :=
  if kind = .files ∧ done.isEmpty ∧ isDrive segment then String.ofList (segment.take 1) ++ ":"
  else String.ofList (Percent.encode Percent.path segment)

/-- Resolves segments of dots; `done` holds the segments before, the last one first. A path that
ends in dots ends in a slash. -/
def resolveDots (kind : SchemeKind) (done : List String) : List (List Char) → List String
  | [] => done.reverse
  | segment :: rest =>
    let ended (done : List String) := if rest.isEmpty then "" :: done else done
    if isDoubleDot segment then resolveDots kind (ended (around done)) rest
    else if isDot segment then resolveDots kind (ended done) rest
    else resolveDots kind (segmentText kind done segment :: done) rest

/-- The parts between slashes. -/
def splitSlashes (kind : SchemeKind) : List Char → List (List Char)
  | [] => [[]]
  | c :: cs =>
    if isSlash kind c then [] :: splitSlashes kind cs
    else
      match splitSlashes kind cs with
      | [] => [[c]]
      | part :: parts => (c :: part) :: parts

/-- The segments of a path, without the slash that it begins with. -/
def segments (kind : SchemeKind) (cs : List Char) : List String :=
  let path :=
    match cs with
    | [] => []
    | c :: rest => if isSlash kind c then rest else c :: rest
  resolveDots kind [] (splitSlashes kind path)

/-- A file of a host. Empty segments at the beginning of the path are dropped, and a path that
begins with a drive has no host. -/
def fileLocation (host : Host) (cs : List Char) : Authority × UrlPath :=
  let names := segments .files cs
  let host := if names.head?.any fun name => isDrive name.toList then .name "" else host
  match names.dropWhile (· = "") with
  | [] => ({ host }, .segments [""])
  | names => ({ host }, .segments names)

/-- Reads an authority and a path; `atEnd` tells that nothing follows them. -/
def location? (kind : SchemeKind) (atEnd : Bool) (cs : List Char) :
    Option (Option Authority × UrlPath) :=
  let slash := isSlash kind
  match kind with
  | .served _ => do
    let (authority, path) := (cs.dropWhile slash).span fun c => !slash c
    let (authority, _) ← authority? kind (atEnd && path.isEmpty) authority
    return (some authority, .segments (segments kind path))
  | .files => do
    match cs with
    | a :: b :: rest =>
      if slash a && slash b then
        let (host, path) := rest.span fun c => !slash c
        if isDrive host then
          let (authority, path) := fileLocation (.name "") rest
          return (some authority, path)
        else
          let host ← fileHost? host
          let (authority, path) := fileLocation host path
          return (some authority, path)
      else
        let (authority, path) := fileLocation (.name "") cs
        return (some authority, path)
    | _ =>
      let (authority, path) := fileLocation (.name "") cs
      return (some authority, path)
  | .other => do
    match cs with
    | '/' :: '/' :: rest =>
      let (authority, path) := rest.span fun c => !slash c
      let (authority, more) ← authority? kind (atEnd && path.isEmpty) authority
      let path := more ++ path
      return (some authority, .segments (if path.isEmpty then [] else segments kind path))
    | '/' :: _ => return (none, .segments (segments kind cs))
    | _ => return (none, .plain (String.ofList (Percent.encode Percent.control cs)))

/-- Reads a URL. -/
def parse? (s : String) : Option Url := do
  let (scheme, rest) ← splitScheme? (clean s)
  let kind := SchemeKind.ofScheme scheme
  let (rest, fragment) := cutAt '#' rest
  let (rest, query) := cutAt '?' rest
  let (authority, path) ← location? kind (query.isNone && fragment.isNone) rest
  let written (set : Percent.CharSet) (cs : List Char) := String.ofList (Percent.encode set cs)
  return {
    scheme, authority, path
    query := query.map (written (Percent.query kind.isSpecial))
    fragment := fragment.map (written Percent.fragment) }

end Url

end CallGraph
