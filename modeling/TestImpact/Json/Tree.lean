import TestImpact.Json.Fault
import TestImpact.Json.Token

namespace TestImpact.Json

inductive ListStop
  | closed
  | atEnd
  | noComma
  | trailingComma
  deriving DecidableEq, Repr

inductive ObjectStop
  | closed
  | atEnd
  | noComma
  | trailingComma
  | endAfterComma
  /-- Something else than a string stands for a key. -/
  | badKey
  deriving DecidableEq, Repr

/-- The shape of a JSON text as far as it goes. Nothing is judged yet: a text may be faulty behind
    the first value that its reader refuses, and the first problem in text order counts. -/
inductive Tree
  | null
  | bool (b : Bool)
  | misspelt (word : Word) (atEnd : Bool)
  | number (n : NumberToken)
  | text (t : TextToken)
  | list (items : List Tree) (stop : ListStop)
  | object (members : List (TextToken × Tree)) (stop : ObjectStop)
  /-- No value begins here. -/
  | broken (fault : Fault)

/-- A bracket that is still open, with what stands behind it so far, last first. -/
inductive Frame
  | list (items : List Tree)
  | object (members : List (TextToken × Tree))
  /-- The value of the key comes next. -/
  | member (members : List (TextToken × Tree)) (key : TextToken)

def Frame.add (t : Tree) : Frame → Frame
  | .list items => .list (t :: items)
  | .object members => .object members
  | .member members key => .object ((key, t) :: members)

def Frame.close : Frame → Tree
  | .list items => .list items.reverse .closed
  | .object members => .object members.reverse .closed
  | .member members key => .object ((key, .null) :: members).reverse .closed

inductive Spot
  | value
  | itemOrClose
  | item
  | keyOrClose
  | key
  | colon (key : TextToken)
  | commaOrClose
  deriving DecidableEq, Repr

inductive Progress
  | complete (t : Tree)
  | within (spot : Spot) (frames : List Frame)

def abandon (frames : List Frame) (t : Tree) : Tree :=
  frames.foldl (fun inner frame => (frame.add inner).close) t

def supply (t : Tree) : List Frame → Progress
  | [] => .complete t
  | frame :: frames => .within .commaOrClose (frame.add t :: frames)

def Progress.stop (frames : List Frame) (t : Tree) : Progress := .complete (abandon frames t)

def beginValue (frames : List Frame) : Token → Progress
  | .null => supply .null frames
  | .bool b => supply (.bool b) frames
  | .misspelt word atEnd => .stop frames (.misspelt word atEnd)
  | .number n => supply (.number n) frames
  | .text t => supply (.text t) frames
  | .listOpen => .within .itemOrClose (.list [] :: frames)
  | .objectOpen => .within .keyOrClose (.object [] :: frames)
  | .listClose | .objectClose | .comma | .colon | .stray => .stop frames (.broken .noValue)

def step : Spot → List Frame → Token → Progress
  | .value, frames, token => beginValue frames token
  | .itemOrClose, .list items :: frames, .listClose => supply (.list items.reverse .closed) frames
  | .itemOrClose, frames, token => beginValue frames token
  | .item, .list items :: frames, .listClose =>
    .stop frames (.list items.reverse .trailingComma)
  | .item, frames, token => beginValue frames token
  | .keyOrClose, .object members :: frames, token
  | .key, .object members :: frames, token =>
    match token with
    | .text key => .within (.colon key) (.object members :: frames)
    | .objectClose =>
      match members with
      | [] => supply (.object [] .closed) frames
      | _ => .stop frames (.object members.reverse .trailingComma)
    | _ => .stop frames (.object members.reverse .badKey)
  | .colon key, .object members :: frames, token =>
    match token with
    | .colon => .within .value (.member members key :: frames)
    | _ => .stop frames (.object ((key, .broken .noColon) :: members).reverse .closed)
  | .commaOrClose, .list items :: frames, token =>
    match token with
    | .comma => .within .item (.list items :: frames)
    | .listClose => supply (.list items.reverse .closed) frames
    | _ => .stop frames (.list items.reverse .noComma)
  | .commaOrClose, .object members :: frames, token =>
    match token with
    | .comma => .within .key (.object members :: frames)
    | .objectClose => supply (.object members.reverse .closed) frames
    | _ => .stop frames (.object members.reverse .noComma)
  | _, frames, _ => .stop frames (.broken .noValue)

def endWithin : Spot → List Frame → Tree
  | .itemOrClose, .list _ :: frames => abandon frames (.list [] .atEnd)
  | .keyOrClose, .object _ :: frames => abandon frames (.object [] .atEnd)
  | .key, .object members :: frames => abandon frames (.object members.reverse .endAfterComma)
  | .colon key, .object members :: frames =>
    abandon frames (.object ((key, .broken .endInObject) :: members).reverse .closed)
  | .commaOrClose, .list items :: frames => abandon frames (.list items.reverse .atEnd)
  | .commaOrClose, .object members :: frames => abandon frames (.object members.reverse .atEnd)
  | _, frames => abandon frames (.broken .endInValue)

def Progress.run : Progress → List Token → Tree × List Token
  | .complete t, tokens => (t, tokens)
  | .within spot frames, [] => (endWithin spot frames, [])
  | .within spot frames, token :: tokens => (step spot frames token).run tokens

def Tree.ofTokens (tokens : List Token) : Tree × List Token :=
  (Progress.within .value []).run tokens

end TestImpact.Json
