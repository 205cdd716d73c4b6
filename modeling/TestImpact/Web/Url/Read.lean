import TestImpact.Web.Url.Basic
import TestImpact.Web.Url.Host

namespace TestImpact.Web.Url

/-- What a text with a scheme is: a URL with a path of segments, or one whose path is opaque, to
    which nothing can be relative. -/
inductive Reading
  | hierarchical (u : Url)
  | opaquePath
  deriving DecidableEq, Repr

def isControlOrSpace (c : Char) : Bool := c.toNat ≤ 0x20

def stripped (cs : List Char) : List Char :=
  ((cs.dropWhile isControlOrSpace).reverse.dropWhile isControlOrSpace).reverse

def kept (cs : List Char) : List Char := cs.filter (!isDropped ·)

def isSchemeChar (c : Char) : Bool := c.isAlphanum || c = '+' || c = '-' || c = '.'

def readScheme (cs : List Char) : Option (String × List Char) :=
  let scheme := kept (cs.takeWhile (· ≠ ':'))
  match scheme.head?, cs.dropWhile (· ≠ ':') with
  | some c, _ :: rest =>
    if c.isAlpha && scheme.all isSchemeChar then
      some (String.ofList (scheme.map Char.toLower), rest)
    else none
  | _, _ => none

def isSlash (k : SchemeKind) (c : Char) : Bool := c = '/' || (k.isSpecial && c = '\\')

def endsAuthority (k : SchemeKind) (c : Char) : Bool := isSlash k c || c = '?' || c = '#'

def isDoubleDot (segment : List Char) : Bool :=
  ["..", "%2e%2e", ".%2e", "%2e."].contains (String.ofList (segment.map Char.toLower))

def isSingleDot (segment : List Char) : Bool :=
  [".", "%2e"].contains (String.ofList (segment.map Char.toLower))

structure Trail where
  segments : List String := []
  hasDrive : Bool := false

/-- The drive that a segment begins with and the text behind it, where tabs or line ends part
    both. -/
def splitDrive (segment : List Char) : Option (String × List Char) :=
  match segment.dropWhile isDropped with
  | [] => none
  | letter :: rest =>
    match rest.dropWhile isDropped with
    | ':' :: mark :: rest =>
      if letter.isAlpha && isDropped mark && !(kept rest).isEmpty then
        some (String.ofList [letter, ':'], kept rest)
      else none
    | _ => none

/-- Goes on by one written segment. A segment of one or two dots is a step, and the last one leaves
    an empty segment behind. In front of a file's path a drive is written with a colon. -/
def Trail.add (k : SchemeKind) (isLast : Bool) (trail : Trail) (written : List Char) : Trail :=
  let isFirst := k = .file && trail.segments.isEmpty
  let segment := kept written
  let leave := if isLast then [""] else []
  let encoded := String.ofList (Percent.encode Percent.path segment)
  match if isFirst then splitDrive written else none with
  | some (drive, rest) =>
    { trail with segments := [drive, String.ofList (Percent.encode Percent.path rest)] }
  | none =>
    if isDoubleDot segment then { trail with segments := stepBack trail.segments ++ leave }
    else if isSingleDot segment then { trail with segments := trail.segments ++ leave }
    else if isFirst && isDriveLetter encoded then ⟨[driveName encoded], true⟩
    else { trail with segments := trail.segments ++ [encoded] }

def Trail.walk (k : SchemeKind) (trail : Trail) : List (List Char) → Trail
  | [] => trail
  | segment :: more => (trail.add k more.isEmpty segment).walk k more

def readSegments (k : SchemeKind) (cs : List Char) : Trail :=
  let trail := Trail.walk k {} (cs.splitOnP (isSlash k))
  if k = .file then { trail with segments := tidyFilePath trail.segments } else trail

def dropSlash (k : SchemeKind) (cs : List Char) : List Char :=
  match cs.dropWhile isDropped with
  | [] => []
  | c :: rest => if isSlash k c then rest else c :: rest

structure Parts where
  path : List Char
  query : Option (List Char)
  fragment : Option (List Char)

def splitParts (cs : List Char) : Parts :=
  let rest := cs.dropWhile fun c => c ≠ '?' && c ≠ '#'
  { path := cs.takeWhile fun c => c ≠ '?' && c ≠ '#'
    query :=
      match rest with
      | '?' :: more => some (kept (more.takeWhile (· ≠ '#')))
      | _ => none
    fragment :=
      match rest.dropWhile (· ≠ '#') with
      | _ :: more => some (kept more)
      | [] => none }

def withTail (k : SchemeKind) (u : Url) (parts : Parts) : Url :=
  let querySet := if k.isSpecial then Percent.webQuery else Percent.query
  { u with
    query := parts.query.map fun q => String.ofList (Percent.encode querySet q)
    fragment := parts.fragment.map fun f => String.ofList (Percent.encode Percent.fragment f) }

/-- Fills in the path, the query and the fragment. A path needs no slash in front of it unless the
    scheme leaves an empty path as it is. -/
def readPath (k : SchemeKind) (u : Url) (cs : List Char) : Url :=
  let parts := splitParts cs
  let path :=
    if parts.path.isEmpty then if k.isSpecial then [""] else []
    else (readSegments k (dropSlash k parts.path)).segments
  withTail k { u with path } parts

def splitUser (cs : List Char) : Option (List Char × List Char) :=
  if cs.contains '@' then
    let behind := (cs.reverse.takeWhile (· ≠ '@')).reverse
    some (cs.take (cs.length - behind.length - 1), behind)
  else none

/-- The text before the first colon outside brackets, and the text from it on. -/
def splitPort (inBrackets : Bool) : List Char → List Char × List Char
  | [] => ([], [])
  | c :: rest =>
    if c = ':' ∧ inBrackets = false then ([], c :: rest)
    else
      let (host, port) :=
        splitPort (if c = '[' then true else if c = ']' then false else inBrackets) rest
      (c :: host, port)

/-- The port behind a host, and what follows its digits. The default of the scheme is left out. -/
def readPort (k : SchemeKind) : List Char → Except UrlFault (Option Nat × List Char)
  | ':' :: rest =>
    let digits := rest.takeWhile Char.isDigit
    let behind := rest.dropWhile Char.isDigit
    let port := Host.valueIn 10 digits
    if 65535 < port ∨ (behind ≠ [] ∧ behind.head? ≠ some '\\') then .error .badPort
    else .ok (if digits = [] ∨ some port = k.defaultPort then none else some port, behind)
  | rest => .ok (none, rest)

def readAuthority (k : SchemeKind) (scheme : String) (cs : List Char) : Except UrlFault Url := do
  let authority := cs.takeWhile (!endsAuthority k ·)
  let rest := cs.dropWhile (!endsAuthority k ·)
  let (user, place) := (splitUser authority).getD ([], authority)
  let username := Percent.encode Percent.userinfo (user.takeWhile (· ≠ ':'))
  let password := Percent.encode Percent.userinfo ((user.dropWhile (· ≠ ':')).drop 1)
  if authority.head? = some '@' ∧ place.length + 1 = authority.length ∧ place = [] ∧ rest ≠ [] then
    .error .emptyHost
  let (hostText, portText) := splitPort false place
  if hostText = [] ∧ (k.isSpecial ∨ portText.head? = some ':') then .error .emptyHost
  let host ← if k.isSpecial then Host.readKnown hostText else Host.readOpaque hostText
  let (port, behind) ← readPort k portText
  if host = [] ∧ (username ≠ [] ∨ password ≠ []) then .error .emptyHost
  let u : Url :=
    { scheme := scheme, username := String.ofList username, password := String.ofList password,
      host := some (String.ofList host), port := port }
  return readPath k u (behind ++ rest)

def localHost : List Char := "localhost".toList

/-- Reads what follows the two slashes of a file's URL. A host is left out if it is the local one or
    if the path begins with a drive. Behind no host, the slash before a path counts as an empty
    segment. -/
def readFileBehindSlashes (scheme : String) (cs : List Char) : Except UrlFault Url := do
  let u : Url := { scheme := scheme, host := some "" }
  let hostText := kept (cs.takeWhile (!endsAuthority .file ·))
  if isDriveLetter (String.ofList hostText) then return readPath .file u cs
  let host ← if hostText = [] then .ok [] else Host.readKnown hostText
  let parts := splitParts (cs.dropWhile (!endsAuthority .file ·))
  if host = [] ∨ host = localHost then
    return withTail .file { u with path := (readSegments .file parts.path).segments } parts
  else
    let trail := readSegments .file (dropSlash .file parts.path)
    let host := if trail.hasDrive then "" else String.ofList host
    return withTail .file { u with host := some host, path := trail.segments } parts

def readFile (scheme : String) (cs : List Char) : Except UrlFault Url :=
  let inside : Url := readPath .file { scheme := scheme, host := some "" } cs
  match cs.dropWhile isDropped with
  | [] => .ok inside
  | a :: rest =>
    match rest.dropWhile isDropped with
    | [] => .ok inside
    | b :: rest =>
      if isSlash .file a && isSlash .file b then readFileBehindSlashes scheme rest else .ok inside

def readOther (scheme : String) : List Char → Except UrlFault Reading
  | '/' :: '/' :: rest => (readAuthority .other scheme rest).map .hierarchical
  | '/' :: rest =>
    let u := readPath .other { scheme := scheme } ('/' :: rest)
    let isApart :=
      match u.path with
      | "" :: _ :: _ => true
      | _ => false
    .ok (.hierarchical { u with isApart })
  | _ => .ok .opaquePath

def read (text : String) : Except UrlFault Reading :=
  match readScheme (stripped text.toList) with
  | none => .error .relative
  | some (scheme, rest) =>
    match SchemeKind.of scheme with
    | .web port =>
      (readAuthority (.web port) scheme ((kept rest).dropWhile (isSlash (.web port)))).map
        .hierarchical
    | .file => (readFile scheme rest).map .hierarchical
    | .other => readOther scheme (kept rest)

/-- The path with a slash at its end. The path of a file is read anew. -/
def withFinalSlash (u : Url) : Url :=
  if u.path.getLast? = some "" then u
  else
    let path := u.path ++ [""]
    if u.kind = .file then
      { u with path := (readSegments .file ("/".intercalate path).toList).segments }
    else { u with path }

end TestImpact.Web.Url
