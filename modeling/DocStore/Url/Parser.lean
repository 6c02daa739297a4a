import DocStore.Text.Blank
import DocStore.Url.Type

/-! # Reading URLs

The URL of a text. Blanks and controls around the text and line breaks inside are dropped; the
scheme decides whether a host is required and what delimits it.
-/

namespace DocStore.Url

def isSchemeChar (c : Char) : Bool :=
  c.isAlphanum || c == '+' || c == '-' || c == '.'

/-- The scheme in lower case and what follows its colon. -/
def splitScheme? (text : List Char) : Option (String × List Char) :=
  match text with
  | first :: _ =>
      if first.isAlpha then
        match text.dropWhile isSchemeChar with
        | ':' :: rest => some (String.ofList ((text.takeWhile isSchemeChar).map Char.toLower), rest)
        | _ => none
      else none
  | [] => none

/-- Whether a character is a slash; under a special scheme a backslash is one too. -/
def isSlash (special : Bool) (c : Char) : Bool :=
  c == '/' || (special && c == '\\')

def endsPath (c : Char) : Bool :=
  c == '?' || c == '#'

/-- What stands before the last `@` of an authority and what behind it, if there is one. -/
def splitUserinfo? (authority : List Char) : Option (List Char × List Char) :=
  if authority.contains '@' then
    let host := (authority.reverse.takeWhile (· != '@')).reverse
    some (authority.take (authority.length - host.length - 1), host)
  else none

/-- The user name and the password, escaped. -/
def readUserinfo (userinfo : List Char) : String × String :=
  let username := userinfo.takeWhile (· != ':')
  let password := (userinfo.dropWhile (· != ':')).drop 1
  (String.ofList (escape userinfoSet username), String.ofList (escape userinfoSet password))

/-- The length of the host at the beginning of a text: up to the first colon that is not in
    brackets. -/
def hostLength : (text : List Char) → (inBrackets : Bool) → Nat
  | [], _ => 0
  | c :: rest, inBrackets =>
      if c = ':' ∧ !inBrackets then 0
      else hostLength rest (if c = '[' then true else if c = ']' then false else inBrackets) + 1

/-- The number of a port's digits. -/
def portNumber? : (digits : List Char) → (value : Nat) → Option Nat
  | [], value => some value
  | c :: rest, value =>
      let next := value * 10 + (c.toNat - 48)
      if c.isDigit ∧ next < 65536 then portNumber? rest next else none

/-- The port of a text behind a host; the port that the scheme implies is left out. -/
def readPort (scheme : String) : List Char → Except UrlFault (Option Nat)
  | ':' :: digits =>
      match portNumber? digits 0 with
      | none => .error .invalidPort
      | some port =>
          if digits.isEmpty || defaultPort? scheme == some port then .ok none
          else .ok (some port)
  | _ => .ok none

def readAuthority (scheme : String) (text : List Char) : Except UrlFault Authority :=
  let special := isSpecialScheme scheme
  let (userinfo, hostAndPort) := (splitUserinfo? text).getD ([], text)
  let (username, password) := readUserinfo userinfo
  let length := hostLength hostAndPort false
  let hostText := hostAndPort.take length
  let portText := hostAndPort.drop length
  if hostText.isEmpty then
    if special || text.contains '@' || !portText.isEmpty then .error .emptyHost
    else .ok ⟨username, password, none, none⟩
  else do
    let host ← if special then Host.parse hostText else Host.parseOther hostText
    let port ← readPort scheme portText
    return ⟨username, password, some host, port⟩

/-- Whether a segment names a drive of a file system: a letter and a colon or a bar. -/
def isDrive : List Char → Bool
  | [letter, mark] => letter.isAlpha && (mark == ':' || mark == '|')
  | _ => false

/-- The segments without the last one; under the scheme of files a drive is not left. -/
def parentOf (file : Bool) (names : List String) : List String :=
  let isKept (name : String) : Bool := isDrive name.toList && name.toList.contains ':'
  if file && names.getLast?.any isKept then names else names.dropLast

/-- The written form of a segment that comes behind others. The bar of a drive that begins the
    path of a file becomes a colon. -/
def segmentText (file : Bool) (names : List String) (segment : List Char) : String :=
  let written :=
    if file && names.isEmpty && isDrive segment then segment.take 1 ++ [':'] else segment
  String.ofList (escape pathSet written)

/-- Put segments of a written path behind others. Dots are obeyed. -/
def readSegments (file : Bool) (names : List String) : List (List Char) → List String
  | [] => names
  | [last] =>
      if isDoubleDot last then parentOf file names ++ [""]
      else if isSingleDot last then names ++ [""]
      else names ++ [segmentText file names last]
  | segment :: rest =>
      if isDoubleDot segment then readSegments file (parentOf file names) rest
      else if isSingleDot segment then readSegments file names rest
      else readSegments file (names ++ [segmentText file names segment]) rest

/-- Segments without the empty ones at their start, of which one is kept if all are empty. -/
def withoutEmptyStart : List String → List String
  | "" :: name :: rest => withoutEmptyStart (name :: rest)
  | names => names

/-- The segments of a path, its first slash being left out. Under the scheme of files several
    slashes at the start count as one. -/
def readPath (scheme : String) (text : List Char) : Path :=
  let file := scheme == "file"
  let slashed := text.map fun c => if isSlash (isSpecialScheme scheme) c then '/' else c
  let names := readSegments file [] (splitChars '/' slashed)
  .segments (if file then withoutEmptyStart names else names)

/-- The path behind an authority. A special scheme has at least the root; elsewhere a path may
    be empty. -/
def readPathStart (scheme : String) (text : List Char) : Path :=
  match text with
  | [] => if isSpecialScheme scheme then .segments [""] else .segments []
  | c :: rest => readPath scheme (if isSlash (isSpecialScheme scheme) c then rest else text)

/-- The query and the fragment of what follows a path. -/
def readTail (special : Bool) (text : List Char) : Option String × Option String :=
  match text with
  | '?' :: rest =>
      let query := rest.takeWhile (· != '#')
      let fragment :=
        match rest.dropWhile (· != '#') with
        | _ :: more => some (String.ofList (escape fragmentSet more))
        | [] => none
      (some (String.ofList (escape (querySet special) query)), fragment)
  | '#' :: rest => (none, some (String.ofList (escape fragmentSet rest)))
  | _ => (none, none)

/-- The URL of its parts, the tail still to be read. -/
def assemble (scheme : String) (authority : Option Authority) (path : Path)
    (tail : List Char) : Url :=
  let (query, fragment) := readTail (isSpecialScheme scheme) tail
  ⟨scheme, authority, path, query, fragment⟩

/-- Read what follows the two slashes before an authority. -/
def readBehindSlashes (scheme : String) (text : List Char) : Except UrlFault Url := do
  let special := isSpecialScheme scheme
  let inAuthority := fun c => !(isSlash special c || endsPath c)
  let authority ← readAuthority scheme (text.takeWhile inAuthority)
  let rest := text.dropWhile inAuthority
  return assemble scheme (some authority)
    (readPathStart scheme (rest.takeWhile fun c => !endsPath c))
    (rest.dropWhile fun c => !endsPath c)

def beginsWithDrive : Path → Bool
  | .segments (name :: _) => isDrive name.toList
  | _ => false

/-- Read what follows the colon of a scheme whose URLs are paths in a file system. The local
    host is not written, and no host stands before a drive. -/
def readFile (scheme : String) (text : List Char) : Except UrlFault Url :=
  let inPath := fun c => !endsPath c
  let onHost (host : Option Host) (behind : List Char) : Url :=
    let path := readPathStart scheme (behind.takeWhile inPath)
    let named := if beginsWithDrive path then none else host
    assemble scheme (some (.ofHost named)) path (behind.dropWhile inPath)
  match text with
  | first :: second :: rest =>
      if isSlash true first && isSlash true second then
        let inHost := fun c => !(isSlash true c || endsPath c)
        let hostText := rest.takeWhile inHost
        if isDrive hostText then .ok (onHost none rest)
        else do
          let host ← if hostText.isEmpty then pure none else (Host.parse hostText).map some
          let named := if host == some (.domain "localhost") then none else host
          return onHost named (rest.dropWhile inHost)
      else .ok (onHost none text)
  | _ => .ok (onHost none text)

/-- Read what follows the colon of a scheme that is not special. -/
def readOther (scheme : String) (text : List Char) : Except UrlFault Url :=
  let inPath := fun c => !endsPath c
  match text with
  | '/' :: '/' :: rest => readBehindSlashes scheme rest
  | '/' :: rest =>
      .ok (assemble scheme none (readPath scheme (rest.takeWhile inPath)) (rest.dropWhile inPath))
  | _ =>
      .ok <| assemble scheme none
        (.rootless (String.ofList (escape controlSet (text.takeWhile inPath))))
        (text.dropWhile inPath)

/-- Read a URL from which ignored characters were dropped. -/
def readCleaned (text : List Char) : Except UrlFault Url :=
  match splitScheme? text with
  | none => .error .relativeWithoutBase
  | some (scheme, rest) =>
      if scheme = "file" then readFile scheme rest
      else if isSpecialScheme scheme then
        readBehindSlashes scheme (rest.dropWhile (isSlash true))
      else readOther scheme rest

def parse (text : String) : Except Error Url :=
  let trimmed := trimWhere (fun c => c.toNat ≤ 32) text.toList
  (readCleaned (trimmed.filter fun c => !isIgnored c)).mapError .url

end DocStore.Url
