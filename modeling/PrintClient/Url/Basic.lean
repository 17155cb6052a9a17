import PrintClient.Url.Host

/-!
# URLs

A `Url` has a scheme, perhaps a user, a host, perhaps a port, a path, and perhaps a query and a
fragment. Only URLs of the schemes that have hosts are modelled; of others it is only told whether
they are URLs. `Url.parse` reads a text the way browsers do: tabs and line ends do not count, a
backslash is a slash, and a port that the scheme stands for is left out.

* `Url.parse`: a URL from text, or why it is none;
* `Url.text`: the text of a URL;
* `Url.pushSegment`: one more segment of the path.
-/

namespace PrintClient

/-- The schemes of URLs that name a host on the web. -/
inductive Scheme where
  | http
  | https
  | ws
  | wss
  | ftp
  deriving DecidableEq, Repr

namespace Scheme

/-- The name of a scheme. -/
def name : Scheme → String
  | .http => "http"
  | .https => "https"
  | .ws => "ws"
  | .wss => "wss"
  | .ftp => "ftp"

/-- All schemes. -/
def all : List Scheme := [.http, .https, .ws, .wss, .ftp]

/-- The port that a scheme stands for. -/
def port : Scheme → UInt16
  | .http | .ws => 80
  | .https | .wss => 443
  | .ftp => 21

end Scheme

/-- A URL on the web. The parts other than the host are kept as they are written, encoded characters
included. -/
structure Url where
  scheme : Scheme
  /-- The user name and the password; the empty user name with no password is no user. -/
  user : String
  password : Option String
  host : Url.Host
  port : Option UInt16
  /-- The segments of the path. -/
  path : List String
  query : Option String
  fragment : Option String
  deriving DecidableEq

namespace Url

/-! ### Text -/

/-- The user part with its at sign, if there is a user. -/
def userText (u : Url) : String :=
  match u.password with
  | some p => u.user ++ ":" ++ p ++ "@"
  | none => if u.user = "" then "" else u.user ++ "@"

/-- The text of the path: a slash before every segment. -/
def pathText (u : Url) : String :=
  if u.path = [] then "/" else String.join (u.path.map ("/" ++ ·))

/-- The text of a URL. -/
def text (u : Url) : String :=
  u.scheme.name ++ "://" ++ u.userText ++ u.host.text ++
    (match u.port with | some p => ":" ++ toString p.toNat | none => "") ++
    u.pathText ++
    (match u.query with | some q => "?" ++ q | none => "") ++
    (match u.fragment with | some f => "#" ++ f | none => "")

/-- The port that a URL leads to. -/
def effectivePort (u : Url) : UInt16 := u.port.getD u.scheme.port

/-! ### Segments of the path -/

/-- Whether characters do not count in a URL. -/
def isDropped (c : Char) : Bool := c = '\t' || c = '\n' || c = '\r'

/-- The path with one more segment. A segment that is one point or two is skipped; one that becomes
so only when tabs and line ends are dropped stays a reference to this or to the outer level. -/
def pushSegment (path : List String) (segment : String) : List String :=
  if segment = "." ∨ segment = ".." then path
  else
    let cs := segment.toList.filter (!isDropped ·)
    if cs = ['.'] then path ++ [""]
    else if cs = ['.', '.'] then path.dropLast ++ [""]
    else path ++ [String.ofList (Percent.encodeChars Percent.segmentSet cs)]

/-! ### Reading -/

/-- Whether a character ends the part of a URL that names user, host and port. -/
def isAuthorityEnd (c : Char) : Bool := c = '/' || c = '\\' || c = '?' || c = '#'

/-- User and password: everything before the last at sign, the first colon between them; and the
rest. -/
def readUser (cs : List Char) : (String × Option String) × List Char :=
  let after := (cs.reverse.takeWhile (· ≠ '@')).reverse
  if after.length = cs.length then (("", none), cs)
  else
    let written := (cs.take (cs.length - after.length)).dropLast
    let name := written.takeWhile (· ≠ ':')
    let encode (cs : List Char) : String := String.ofList (Percent.encodeChars Percent.userSet cs)
    match written.drop (name.length + 1) with
    | [] => ((encode name, none), after)
    | password => ((encode name, some (encode password)), after)

/-- The characters of the host: up to a colon outside brackets. -/
def hostChars (inside : Bool) : List Char → List Char
  | [] => []
  | c :: rest =>
    if c = ':' ∧ !inside then []
    else c :: hostChars (c = '[' || (inside && c ≠ ']')) rest

/-- A port number; none if there are no digits or if the scheme stands for it. -/
def readPort (scheme : Scheme) (cs : List Char) : Except UrlFault (Option UInt16) :=
  if cs.all Char.isDigit then
    let n := cs.foldl (fun n c => n * 10 + (c.toNat - 48)) 0
    if 65535 < n then .error .port
    else if cs = [] ∨ UInt16.ofNat n = scheme.port then .ok none
    else .ok (some (UInt16.ofNat n))
  else .error .port

/-- The segments of a path, written with slashes of either kind between them. -/
def readPath (cs : List Char) : List String :=
  let segments := (parts '/' (cs.map fun c => if c = '\\' then '/' else c)).drop 1
  let pathSet := Percent.segmentSet.filter fun c => c ≠ '/' && c ≠ '%' && c ≠ '\\'
  segments.zipIdx.foldl (fun path (s, i) =>
    let last := i + 1 == segments.length
    let dots := (String.ofList s).replace "%2e" "." |>.replace "%2E" "."
    if dots = "." then if last then path ++ [""] else path
    else if dots = ".." then if last then path.dropLast ++ [""] else path.dropLast
    else path ++ [String.ofList (Percent.encodeChars pathSet s)]) []

/-- What follows the scheme and the slashes of a URL on the web. -/
def readAfterSlashes (scheme : Scheme) (cs : List Char) : Except UrlFault Url :=
  let authority := cs.takeWhile (!isAuthorityEnd ·)
  let rest := cs.drop authority.length
  let ((user, password), place) := readUser authority
  let name := hostChars false place
  if name = [] then .error .emptyHost
  else match Host.parse name with
    | .error f => .error f
    | .ok host =>
      match readPort scheme (place.drop (name.length + 1)) with
      | .error f => .error f
      | .ok port =>
        let path := rest.takeWhile fun c => c ≠ '?' && c ≠ '#'
        let rest := rest.drop path.length
        let query := match rest with
          | '?' :: q =>
            some (Percent.encode Percent.querySet (String.ofList (q.takeWhile (· ≠ '#'))))
          | _ => none
        let fragment := match rest.dropWhile (· ≠ '#') with
          | '#' :: f => some (Percent.encode Percent.fragmentSet (String.ofList f))
          | _ => none
        .ok ⟨scheme, user, password, host, port, readPath path, query, fragment⟩

/-! ### Other schemes -/

/-- Whether a character can be in no host, whatever the scheme. -/
def isForbiddenInHost (c : Char) : Bool :=
  ['\x00', ' ', '#', '/', ':', '<', '>', '?', '@', '[', '\\', ']', '^', '|'].contains c

/-- Why a text is no host of another scheme, where a host is an address in brackets or any text
without the forbidden characters. -/
def otherHostFault? (cs : List Char) : Option UrlFault :=
  match cs with
  | '[' :: rest =>
    match Host.parseBracketed rest with
    | .error f => some f
    | .ok _ => none
  | _ => if cs.any isForbiddenInHost then some .domainCharacter else none

/-- Why a text is no port with a colon in front; a backslash and what follows it are not looked at.
-/
def otherPortFault? (cs : List Char) : Option UrlFault :=
  match cs with
  | ':' :: rest =>
    match readPort .http (rest.takeWhile (· ≠ '\\')) with
    | .error f => some f
    | .ok _ => none
  | _ => none

/-- Why what follows the slashes of a URL of another scheme does not name a user, a host and a port.
The host can be missing where there is no user and no port. -/
def otherFault? (cs : List Char) : Option UrlFault :=
  let authority := cs.takeWhile fun c => c ≠ '/' && c ≠ '?' && c ≠ '#'
  let place := (authority.reverse.takeWhile (· ≠ '@')).reverse
  let written := authority.take (authority.length - place.length)
  let name := hostChars false place
  let port := place.drop name.length
  if name = [] then
    if port ≠ [] ∨ (written = ['@'] ∧ authority.length < cs.length) ∨
        (written.length ≠ 0 ∧ written ≠ ['@'] ∧ written ≠ [':', '@']) then some .emptyHost
    else none
  else (otherHostFault? name).or (otherPortFault? port)

/-- Why what follows the slashes of the URL of a file does not name a host. The host can be missing,
and a drive letter in its place belongs to the path. -/
def fileFault? (cs : List Char) : Option UrlFault :=
  let name := cs.takeWhile (!isAuthorityEnd ·)
  let isDrive : Bool := match name with
    | [c, d] => c.isAlpha && (d = ':' || d = '|')
    | _ => false
  if name = [] ∨ isDrive then none
  else match Host.parse name with
    | .error f => some f
    | .ok _ => none

/-- Why what follows the colon of a scheme without hosts on the web is no URL. -/
def otherSchemeFault? (scheme : String) (cs : List Char) : Option UrlFault :=
  match cs with
  | a :: b :: rest =>
    if scheme = "file" then
      if (a = '/' ∨ a = '\\') ∧ (b = '/' ∨ b = '\\') then fileFault? rest else none
    else if a = '/' ∧ b = '/' then otherFault? rest
    else none
  | _ => none

/-! ### The whole text -/

/-- Whether a character may stand in the name of a scheme, after its first letter. -/
def isSchemeChar (c : Char) : Bool := c.isAlphanum || c = '+' || c = '-' || c = '.'

/-- The name of the scheme in lower case and what follows its colon. -/
def readScheme? (cs : List Char) : Option (String × List Char) :=
  match cs with
  | c :: _ =>
    if c.isAlpha then
      let name := cs.takeWhile isSchemeChar
      match cs.drop name.length with
      | ':' :: rest => some (String.ofList (name.map Char.toLower), rest)
      | _ => none
    else none
  | [] => none

/-- Whether a character is dropped at the ends of a URL. -/
def isEdge (c : Char) : Bool := c.toNat ≤ 32

/-- A URL from text; `none` for a URL of a scheme without hosts on the web. -/
def parse (s : String) : Except UrlFault (Option Url) :=
  let trimmed := ((s.toList.dropWhile isEdge).reverse.dropWhile isEdge).reverse
  match readScheme? (trimmed.filter (!isDropped ·)) with
  | none => .error .relativeWithoutBase
  | some (name, rest) =>
    match Scheme.all.find? fun scheme => scheme.name = name with
    | some scheme =>
      (readAfterSlashes scheme (rest.dropWhile fun c => c = '/' || c = '\\')).map some
    | none =>
      match otherSchemeFault? name rest with
      | some f => .error f
      | none => .ok none

end Url

end PrintClient
