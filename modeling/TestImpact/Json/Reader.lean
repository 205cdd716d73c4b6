import TestImpact.Json.Numeral
import TestImpact.Json.Tree

namespace TestImpact.Json

open Decimal (Binary64)

def TextStop.fault : TextStop → Option Fault
  | .closed => none
  | .atEnd => some .endInText
  | .control => some .controlCharacter
  | .badEscape | .badHex => some .badEscape

def TextStop.faultAfterHigh : TextStop → Fault
  | .atEnd => .endInText
  | .badHex => .badEscape
  | .closed | .control | .badEscape => .unpairedSurrogate

def isHigh (n : Nat) : Bool := 0xD800 ≤ n && n ≤ 0xDBFF

def isLow (n : Nat) : Bool := 0xDC00 ≤ n && n ≤ 0xDFFF

def pairedChar (high low : Nat) : Char :=
  Char.ofNat (0x10000 + (high - 0xD800) * 0x400 + (low - 0xDC00))

/-- The characters that the pieces of a string stand for, `none` for a stray byte. -/
def charsOfPieces (stop : TextStop) : List Piece → Except Fault (List (Option Char))
  | [] =>
    match stop.fault with
    | some f => .error f
    | none => .ok []
  | .char c :: rest => do
    let more ← charsOfPieces stop rest
    return some c :: more
  | .stray :: rest => do
    let more ← charsOfPieces stop rest
    return none :: more
  | .escape c :: rest => do
    let more ← charsOfPieces stop rest
    return some c :: more
  | .unit n :: rest =>
    if isLow n then .error .loneSurrogate
    else if isHigh n then
      match rest with
      | .unit m :: rest =>
        if isLow m then do
          let more ← charsOfPieces stop rest
          return some (pairedChar n m) :: more
        else .error .loneSurrogate
      | [] => .error stop.faultAfterHigh
      | _ :: _ => .error .unpairedSurrogate
    else do
      let more ← charsOfPieces stop rest
      return some (Char.ofNat n) :: more

/-- The text of a string. A stray byte is found when the string is closed. -/
def TextToken.text (t : TextToken) : Except Fault String := do
  let cs ← charsOfPieces t.stop t.pieces
  if cs.all Option.isSome then return String.ofList (cs.filterMap id) else .error .badCodePoint

def TextToken.skip (t : TextToken) : Except Fault Unit :=
  match t.stop.fault with
  | some f => .error f
  | none => .ok ()

def ListStop.check : ListStop → Except Fault Unit
  | .closed => .ok ()
  | .atEnd => .error .endInList
  | .noComma => .error .noCommaInList
  | .trailingComma => .error .trailingComma

def ListStop.skip : ListStop → Except Fault Unit
  | .trailingComma => .error .noValue
  | stop => stop.check

def ObjectStop.check : ObjectStop → Except Fault Unit
  | .closed => .ok ()
  | .atEnd => .error .endInObject
  | .noComma => .error .noCommaInObject
  | .trailingComma => .error .trailingComma
  | .endAfterComma => .error .endInValue
  | .badKey => .error .keyNotText

def ObjectStop.skip : ObjectStop → Except Fault Unit
  | .trailingComma => .error .keyNotText
  | .endAfterComma => .error .endInObject
  | stop => stop.check

def misspeltFault (atEnd : Bool) : Fault := if atEnd then .endInValue else .misspeltWord

mutual

/-- Reads past a value: its brackets, strings and numerals have to be whole. -/
def Tree.skip : Tree → Except Fault Unit
  | .null => .ok ()
  | .bool _ => .ok ()
  | .misspelt _ atEnd => .error (misspeltFault atEnd)
  | .number (.complete _) => .ok ()
  | .number (.broken _) => .error .badNumber
  | .text t => t.skip
  | .list items stop => do
    skipItems items
    stop.skip
  | .object members stop => do
    skipMembers members
    stop.skip
  | .broken fault => .error fault

def skipItems : List Tree → Except Fault Unit
  | [] => .ok ()
  | t :: ts => do
    t.skip
    skipItems ts

def skipMembers : List (TextToken × Tree) → Except Fault Unit
  | [] => .ok ()
  | (key, t) :: rest => do
    key.skip
    t.skip
    skipMembers rest

end

/-- What a message says of a value of the wrong type. Only its own token is looked at. -/
def Tree.found : Tree → Except Fault Found
  | .null => .ok .null
  | .bool b => .ok (.bool b)
  | .misspelt _ atEnd => .error (misspeltFault atEnd)
  | .number n => n.number.map .number
  | .text t => t.text.map .text
  | .list _ _ => .ok .list
  | .object _ _ => .ok .object
  | .broken fault => .error fault

abbrev Reader (α : Type) := Tree → Except Fault α

namespace Reader

variable {α β : Type}

def refuse (expected : String) : Reader α := fun t => do
  let found ← t.found
  .error (.wrongType found expected)

def textFor (expected : String) : Reader String
  | .text t => t.text
  | t => refuse expected t

def text : Reader String := textFor "a string"

def natural : Reader UInt64
  | .number token => do
    match ← token.number with
    | .integer n =>
      if 0 ≤ n then return UInt64.ofNat n.toNat
      else .error (.wrongValue (.number (.integer n)) "u64")
    | .real x => .error (.wrongType (.number (.real x)) "u64")
  | t => refuse "u64" t

def real : Reader Binary64
  | .number token => do
    match ← token.number with
    | .integer n => return .ofFloat (Float.ofInt n)
    | .real x => return x
  | t => refuse "f64" t

def null : Reader Unit
  | .null => .ok ()
  | t => refuse "unit" t

/-- Accepts `null` too. What begins as that word can be nothing else. -/
def optional (r : Reader α) : Reader (Option α)
  | .null => .ok none
  | .misspelt .null atEnd => .error (misspeltFault atEnd)
  | t => (r t).map some

def refine (r : Reader α) (f : α → Except Fault β) : Reader β := fun t => do
  let a ← r t
  f a

def list (r : Reader α) : Reader (List α)
  | .list items stop => do
    let read ← items.mapM r
    stop.check
    return read
  | t => refuse "a sequence" t

end Reader

def bindSorted (name : String) (v : Value) : List (String × Value) → List (String × Value)
  | [] => [(name, v)]
  | (other, w) :: rest =>
    if name = other then (name, v) :: rest
    else if name < other then (name, v) :: (other, w) :: rest
    else (other, w) :: bindSorted name v rest

mutual

/-- Any value with at most so many brackets inside each other. Members are sorted by name, and of
    two with one name the later one counts. -/
def Tree.value (levels : Nat) : Tree → Except Fault Value
  | .null => .ok .null
  | .bool b => .ok (.bool b)
  | .misspelt _ atEnd => .error (misspeltFault atEnd)
  | .number n => n.number.map .number
  | .text t => t.text.map .text
  | .list items stop =>
    match levels with
    | 0 => .error .tooDeep
    | levels + 1 => do
      let vs ← values levels items
      stop.check
      return .list vs
  | .object members stop =>
    match levels with
    | 0 => .error .tooDeep
    | levels + 1 => do
      let ms ← bindings levels [] members
      stop.check
      return .object ms
  | .broken fault => .error fault

def values (levels : Nat) : List Tree → Except Fault (List Value)
  | [] => .ok []
  | t :: ts => do
    let v ← t.value levels
    let vs ← values levels ts
    return v :: vs

def bindings (levels : Nat) (bound : List (String × Value)) :
    List (TextToken × Tree) → Except Fault (List (String × Value))
  | [] => .ok bound
  | (key, t) :: rest => do
    let name ← key.text
    let v ← t.value levels
    bindings levels (bindSorted name v bound) rest

end

def deepestLevel : Nat := 127

def read {α : Type} (r : Reader α) (source : Source) : Except Fault α := do
  let (t, rest) := Tree.ofTokens (Token.scan source)
  let a ← r t
  if rest.isEmpty then return a else .error .trailingCharacters

end TestImpact.Json
