import TestImpact.Text.Letters
import TestImpact.Web.Http
import TestImpact.Web.Lines

namespace TestImpact.Web

def Url.target (u : Url) : String :=
  (if u.path = [] then "/" else u.pathText) ++ Url.behind "?" u.query

def Request.framing (r : Request) : List (String × String) :=
  [("Host", r.url.host.getD "" ++ r.url.portText), ("Connection", "close"),
   ("Content-Length", toString (r.body.getD []).length)]

def headerLine (h : String × String) : List UInt8 := line (h.1 ++ ": " ++ h.2)

/-- The bytes of a request. The connection is to be closed behind the response. -/
def Request.encode (r : Request) : List UInt8 :=
  line s!"{r.method} {r.url.target} HTTP/1.1" ++ (r.framing ++ r.headers).flatMap headerLine ++
    lineEnd ++ r.body.getD []

def takeHead (bytes : List UInt8) : Option (List String × List UInt8) :=
  match found : takeLine bytes with
  | none => none
  | some ([], rest) => some ([], rest)
  | some (first, rest) =>
    have := length_takeLine found
    (takeHead rest).map fun head => (Text.Utf8.lossy first :: head.1, head.2)
  termination_by bytes.length

def statusOf (first : String) : Option Nat :=
  match first.toList.splitOn ' ' with
  | _ :: code :: _ => (String.ofList code).toNat?
  | _ => none

def valueIn (name headerText : String) : Option String :=
  let cs := headerText.toList
  let before := cs.takeWhile (· ≠ ':')
  if Text.sameLetters (String.ofList before) name then
    some (String.ofList (Text.trim (cs.drop (before.length + 1))))
  else none

def hexNumber (cs : List Char) : Option Nat :=
  if cs = [] then none
  else (cs.mapM Percent.hexValue).map fun digits => digits.foldl (fun acc d => acc * 16 + d) 0

def Body.prepend (bytes : List UInt8) : Body → Body
  | .whole more => .whole (bytes ++ more)
  | .broken more reason => .broken (bytes ++ more) reason

def readChunks (bytes : List UInt8) : Body :=
  match found : takeLine bytes with
  | none => .cut []
  | some (first, rest) =>
    match hexNumber ((Text.Utf8.lossy first).toList.takeWhile (· ≠ ';')) with
    | none => .cut []
    | some 0 => .whole []
    | some size =>
      have := length_takeLine found
      if rest.length < size then .cut rest
      else (readChunks (rest.drop (size + lineEnd.length))).prepend (rest.take size)
  termination_by bytes.length
  decreasing_by simp only [List.length_drop]; omega

def readBody (head : List String) (bytes : List UInt8) : Body :=
  if (head.findSome? (valueIn "transfer-encoding")) = some "chunked" then readChunks bytes
  else
    match (head.findSome? (valueIn "content-length")).bind (·.toNat?) with
    | some size => if bytes.length < size then .cut bytes else .whole (bytes.take size)
    | none => .whole bytes

def Response.read (bytes : List UInt8) : Option Response := do
  let (head, rest) ← takeHead bytes
  let first ← head.head?
  let status ← statusOf first
  return { status, body := readBody head rest }

end TestImpact.Web
