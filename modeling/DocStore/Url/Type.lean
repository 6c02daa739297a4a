import DocStore.Url.Host

/-! # URLs

A URL in parts. All texts of a URL are kept as they are written, with what has to be escaped
already escaped; the path is a list of segments, so that appending one cannot change another.
-/

namespace DocStore

namespace Url

/-- Whether a scheme is one whose URLs always have a host and a path. -/
def isSpecialScheme (scheme : String) : Bool :=
  ["http", "https", "ws", "wss", "ftp", "file"].contains scheme

def defaultPort? : String → Option Nat
  | "http" | "ws" => some 80
  | "https" | "wss" => some 443
  | "ftp" => some 21
  | _ => none

/-- What stands between a scheme and a path. -/
structure Authority where
  username : String
  /-- Empty if there is none. -/
  password : String
  host : Option Host
  port : Option Nat
  deriving DecidableEq, Repr

/-- The authority of a host by itself. -/
def Authority.ofHost (host : Option Host) : Authority := ⟨"", "", host, none⟩

inductive Path where
  /-- A text that does not begin with a slash, so that nothing can be appended to it. -/
  | rootless (text : String)
  /-- The segments that the slashes of a path begin. -/
  | segments (names : List String)
  deriving DecidableEq, Repr

end Url

structure Url where
  scheme : String
  authority : Option Url.Authority
  path : Url.Path
  query : Option String
  fragment : Option String
  deriving DecidableEq, Repr

namespace Url

def isSpecial (url : Url) : Bool :=
  isSpecialScheme url.scheme

def host? (url : Url) : Option Host :=
  url.authority.bind Authority.host

def Authority.chars (authority : Authority) : List Char :=
  let password := authority.password.toList
  let user :=
    if authority.username.toList.isEmpty && password.isEmpty then []
    else
      authority.username.toList ++ (if password.isEmpty then [] else ':' :: password) ++ ['@']
  let port :=
    match authority.port with
    | some n => ':' :: DecimalLayout.digitChars n
    | none => []
  user ++ ((authority.host.map Host.text).getD []) ++ port

def Path.chars : Path → List Char
  | .rootless text => text.toList
  | .segments names => names.flatMap fun name => '/' :: name.toList

/-- The written form of what follows the path. -/
def tailChars (query fragment : Option String) : List Char :=
  (match query with
    | some text => '?' :: text.toList
    | none => []) ++
  (match fragment with
    | some text => '#' :: text.toList
    | none => [])

/-- Whether a path without an authority before it would read as one. -/
def Path.looksLikeAuthority : Path → Bool
  | .segments ("" :: _ :: _) => true
  | _ => false

def chars (url : Url) : List Char :=
  let start :=
    match url.authority with
    | some authority => '/' :: '/' :: authority.chars
    | none => if url.path.looksLikeAuthority then ['/', '.'] else []
  url.scheme.toList ++ ':' :: (start ++ url.path.chars ++ tailChars url.query url.fragment)

def text (url : Url) : String :=
  String.ofList url.chars

/-- Whether a segment stands for the directory that it is in. -/
def isSingleDot (segment : List Char) : Bool :=
  [".", "%2e"].any fun dot => segment.map Char.toLower == dot.toList

/-- Whether a segment stands for the directory above. -/
def isDoubleDot (segment : List Char) : Bool :=
  ["..", ".%2e", "%2e.", "%2e%2e"].any fun dots => segment.map Char.toLower == dots.toList

/-- Whether a character is dropped wherever it stands in a URL. -/
def isIgnored (c : Char) : Bool :=
  c == '\t' || c == '\n' || c == '\r'

/-- Add a segment behind the last one. An empty path, and one that is only the root, has none
    yet. -/
def appendSegment (names : List String) (segment : String) : List String :=
  if names = [""] then [segment] else names ++ [segment]

/-- Append a text to a path as one segment. A text that is one or two dots is ignored; one that
    only becomes so when ignored characters are dropped is obeyed. -/
def pushSegment (special : Bool) (names : List String) (segment : String) : List String :=
  if segment = "." ∨ segment = ".." then names
  else
    let written := escape (segmentSet special) (segment.toList.filter fun c => !isIgnored c)
    if isDoubleDot written then names.dropLast ++ [""]
    else if isSingleDot written then appendSegment names ""
    else appendSegment names (String.ofList written)

/-- Drop an empty last segment, unless it is all there is. -/
def popIfEmpty (names : List String) : List String :=
  if 1 < names.length && names.getLast? == some "" then names.dropLast else names

/-- The URL with texts appended to its path, each as one segment. There is none if the path
    cannot be appended to. -/
def append? (url : Url) (segments : List String) : Option Url :=
  match url.path with
  | .rootless _ => none
  | .segments names =>
      some { url with
        path := .segments (segments.foldl (pushSegment url.isSpecial) (popIfEmpty names)) }

/-- Write pairs behind a query's text. -/
def appendPairs (query : List Char) : List (String × String) → List Char
  | [] => query
  | (key, value) :: rest =>
      appendPairs ((if query.isEmpty then [] else query ++ ['&']) ++ formPair key value) rest

/-- The URL with pairs added to its query. A query that stays empty is left out. -/
def addPairs (url : Url) (pairs : List (String × String)) : Url :=
  if pairs.isEmpty then url
  else
    let before := (url.query.getD "").toList
    { url with query := some (String.ofList (appendPairs before pairs)) }

/-- The URL with these pairs for its query. -/
def withPairs (url : Url) (pairs : List (String × String)) : Url :=
  { url with query := some (String.ofList (appendPairs [] pairs)) }

end Url

end DocStore
