import TestImpact.Decimal.Layout
import TestImpact.Json.Value

namespace TestImpact.Json

def realLayout : Decimal.Layout :=
  { lowestPositional := -5, highestPositional := 15, keepsPoint := true, signsExponent := true }

def Number.text : Number → String
  | .integer n => toString n
  | .real x => realLayout.text x

def hexDigit (n : Nat) : Char := Nat.digitChar (n % 16)

def escaped (c : Char) : List Char :=
  if c = '"' then ['\\', '"']
  else if c = '\\' then ['\\', '\\']
  else if c = '\n' then ['\\', 'n']
  else if c = '\r' then ['\\', 'r']
  else if c = '\t' then ['\\', 't']
  else if c = '\x08' then ['\\', 'b']
  else if c = '\x0c' then ['\\', 'f']
  else if c.toNat < 0x20 then ['\\', 'u', '0', '0', hexDigit (c.toNat / 16), hexDigit c.toNat]
  else [c]

def textChars (s : String) : List Char := '"' :: s.toList.flatMap escaped ++ ['"']

structure Spacing where
  line : Nat → List Char
  afterColon : List Char

def Spacing.none : Spacing := ⟨fun _ => [], []⟩

def Spacing.lines : Spacing := ⟨fun depth => '\n' :: List.replicate (2 * depth) ' ', [' ']⟩

mutual

def Value.chars (sp : Spacing) (depth : Nat) : Value → List Char
  | .null => ['n', 'u', 'l', 'l']
  | .bool true => ['t', 'r', 'u', 'e']
  | .bool false => ['f', 'a', 'l', 's', 'e']
  | .number n => n.text.toList
  | .text s => textChars s
  | .list [] => ['[', ']']
  | .list (v :: vs) =>
    '[' :: sp.line (depth + 1) ++ v.chars sp (depth + 1) ++ itemChars sp (depth + 1) vs ++
      sp.line depth ++ [']']
  | .object [] => ['\x7b', '\x7d']
  | .object ((k, v) :: ms) =>
    '\x7b' :: sp.line (depth + 1) ++ textChars k ++ ':' :: sp.afterColon ++
      v.chars sp (depth + 1) ++ memberChars sp (depth + 1) ms ++ sp.line depth ++ ['\x7d']

def itemChars (sp : Spacing) (depth : Nat) : List Value → List Char
  | [] => []
  | v :: vs => ',' :: sp.line depth ++ v.chars sp depth ++ itemChars sp depth vs

def memberChars (sp : Spacing) (depth : Nat) : List (String × Value) → List Char
  | [] => []
  | (k, v) :: ms =>
    ',' :: sp.line depth ++ textChars k ++ ':' :: sp.afterColon ++ v.chars sp depth ++
      memberChars sp depth ms

end

def Value.compact (v : Value) : String := String.ofList (v.chars .none 0)

def Value.pretty (v : Value) : String := String.ofList (v.chars .lines 0)

end TestImpact.Json
