namespace TestImpact.Web.Percent

/-- A set of ASCII characters that are percent-encoded. All other characters past ASCII and all
    controls are encoded in every set. -/
abbrev EncodeSet := List Char

def fragment : EncodeSet := [' ', '"', '<', '>', '\x60']

def query : EncodeSet := [' ', '"', '#', '<', '>']

def webQuery : EncodeSet := '\'' :: query

def path : EncodeSet := ['#', '?', '\x7b', '\x7d'] ++ fragment

def userinfo : EncodeSet := ['/', ':', ';', '=', '@', '[', '\\', ']', '^', '|'] ++ path

def segment : EncodeSet := ['/', '%'] ++ path

/-- In URLs of the schemes of the web a backslash divides segments too. -/
def webSegment : EncodeSet := '\\' :: segment

def hexDigit (n : Nat) : Char := (Nat.digitChar (n % 16)).toUpper

def encodeByte (b : UInt8) : List Char := ['%', hexDigit (b.toNat / 16), hexDigit b.toNat]

def isKept (set : EncodeSet) (c : Char) : Bool :=
  0x20 ≤ c.toNat && c.toNat < 0x7F && !set.contains c

def encodeChar (set : EncodeSet) (c : Char) : List Char :=
  if isKept set c then [c] else (String.utf8EncodeChar c).flatMap encodeByte

def encode (set : EncodeSet) (cs : List Char) : List Char := cs.flatMap (encodeChar set)

def hexValue (c : Char) : Option Nat :=
  if '0' ≤ c ∧ c ≤ '9' then some (c.toNat - '0'.toNat)
  else if 'a' ≤ c ∧ c ≤ 'f' then some (c.toNat - 'a'.toNat + 10)
  else if 'A' ≤ c ∧ c ≤ 'F' then some (c.toNat - 'A'.toNat + 10)
  else none

/-- The bytes that a percent-encoded text stands for. A percent sign without two hexadecimal digits
    stands for itself. -/
def decode : List Char → List UInt8
  | [] => []
  | c :: rest =>
    if c = '%' then
      match rest with
      | a :: b :: more =>
        match hexValue a, hexValue b with
        | some x, some y => UInt8.ofNat (x * 16 + y) :: decode more
        | _, _ => String.utf8EncodeChar c ++ decode (a :: b :: more)
      | more => String.utf8EncodeChar c ++ decode more
    else String.utf8EncodeChar c ++ decode rest

end TestImpact.Web.Percent
