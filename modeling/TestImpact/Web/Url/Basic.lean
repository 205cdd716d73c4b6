import TestImpact.Web.Percent

namespace TestImpact.Web

inductive SchemeKind
  /-- A host is there, and a backslash is as good as a slash. -/
  | web (defaultPort : Nat)
  | file
  | other
  deriving DecidableEq, Repr

def SchemeKind.of (scheme : String) : SchemeKind :=
  if scheme = "http" ∨ scheme = "ws" then .web 80
  else if scheme = "https" ∨ scheme = "wss" then .web 443
  else if scheme = "ftp" then .web 21
  else if scheme = "file" then .file
  else .other

def SchemeKind.isSpecial (k : SchemeKind) : Bool := k ≠ .other

def SchemeKind.defaultPort : SchemeKind → Option Nat
  | .web port => some port
  | _ => none

/-- An absolute URL with a path of segments. All parts are percent-encoded. -/
structure Url where
  scheme : String
  username : String := ""
  password : String := ""
  /-- No host at all differs from an empty one, which is behind two slashes. -/
  host : Option String := none
  port : Option Nat := none
  /-- Whether `/.` keeps the path apart from the scheme, so that an empty segment in front of it
      does not look like a host. -/
  isApart : Bool := false
  /-- The segments, each behind a slash; the text of no segments is empty. -/
  path : List String := []
  query : Option String := none
  fragment : Option String := none
  deriving DecidableEq, Repr

namespace Url

def kind (u : Url) : SchemeKind := .of u.scheme

def userText (u : Url) : String :=
  if u.username = "" ∧ u.password = "" then ""
  else if u.password = "" then u.username ++ "@"
  else u.username ++ ":" ++ u.password ++ "@"

def portText (u : Url) : String :=
  match u.port with
  | some p => ":" ++ toString p
  | none => ""

def pathText (u : Url) : String := String.join (u.path.map ("/" ++ ·))

def authorityText (u : Url) : String :=
  match u.host with
  | some host => "//" ++ u.userText ++ host ++ u.portText
  | none => if u.isApart then "/." else ""

def behind (mark : String) : Option String → String
  | some s => mark ++ s
  | none => ""

def text (u : Url) : String :=
  u.scheme ++ ":" ++ u.authorityText ++ u.pathText ++ behind "?" u.query ++
    behind "#" u.fragment

def isDriveLetter (segment : String) : Bool :=
  match segment.toList with
  | [c, sep] => c.isAlpha && (sep = ':' || sep = '|')
  | _ => false

def driveName (segment : String) : String := String.ofList (segment.toList.take 1 ++ [':'])

def tidyFilePath (path : List String) : List String :=
  match path.dropWhile (· = "") with
  | [] => [""]
  | tidy => tidy

def isDrive (segment : String) : Bool :=
  match segment.toList with
  | c :: sep :: rest =>
    c.isAlpha && (sep = ':' || sep = '|') && (rest.isEmpty || rest.head? = some '\\')
  | _ => false

/-- A path without its last segment. A drive stays. -/
def stepBack (path : List String) : List String :=
  if (path.getLast?.map isDrive).getD false then path else path.dropLast

/-- The path without an empty segment at its end. The root keeps its slash. -/
def dropFinalSlash (u : Url) : Url :=
  if 1 < u.path.length ∧ u.path.getLast? = some "" then { u with path := u.path.dropLast } else u

def segmentSet (u : Url) : Percent.EncodeSet :=
  if u.kind.isSpecial then Percent.webSegment else Percent.segment

def isDropped (c : Char) : Bool := c = '\t' || c = '\n' || c = '\r'

/-- Puts a segment behind a path. The lone empty segment of a root gives way to it. -/
def appendSegment (path : List String) (s : String) : List String :=
  if path = [""] then [s] else path ++ [s]

/-- Adds a text to the path as one segment. Dots that only appear when tabs and line ends are
    dropped count as steps in the path. -/
def addSegment (u : Url) (text : String) : Url :=
  if text = "." ∨ text = ".." then u
  else
    let kept := text.toList.filter (!isDropped ·)
    let path :=
      if kept = ['.'] then appendSegment u.path ""
      else if kept = ['.', '.'] then stepBack u.path ++ [""]
      else appendSegment u.path (String.ofList (Percent.encode u.segmentSet kept))
    { u with path := if u.kind = .file then tidyFilePath path else path }

/-- The URL behind this one: the segments are added to the path, less an empty one at its end. -/
def extend (u : Url) (segments : List String) : Url := segments.foldl addSegment u.dropFinalSlash

def withPair (u : Url) (name value : String) : Url :=
  let pair := name ++ "=" ++ value
  match u.query with
  | none => { u with query := some pair }
  | some q => { u with query := some (if q = "" then pair else q ++ "&" ++ pair) }

end Url

end TestImpact.Web
