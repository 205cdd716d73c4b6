import TestImpact.Text.Utf8

namespace TestImpact.Files

/-- A name as the system stores it: any bytes. -/
abbrev Name := List UInt8

/-- A path as it is written: bytes, of which slashes divide names. -/
structure Path where
  bytes : List UInt8
  deriving DecidableEq, Repr

def slash : UInt8 := 47

def dot : UInt8 := 46

namespace Path

def ofString (s : String) : Path := ⟨Text.Utf8.encode s⟩

def display (p : Path) : String := Text.Utf8.lossy p.bytes

def isAbsolute (p : Path) : Bool := p.bytes.head? = some slash

/-- A name behind a path. No slash is added to one that ends in a slash, nor to the empty path. -/
def child (p : Path) (name : Name) : Path :=
  if p.bytes = [] ∨ p.bytes.getLast? = some slash then ⟨p.bytes ++ name⟩
  else ⟨p.bytes ++ slash :: name⟩

def parts (p : Path) : List Name :=
  (p.bytes.splitOn slash).filter fun part => part ≠ [] ∧ part ≠ [dot]

def fileName (p : Path) : Option Name :=
  match p.parts.getLast? with
  | some name => if name = [dot, dot] then none else some name
  | none => none

def extensionOf (name : Name) : Option Name :=
  let behind := (name.reverse.takeWhile (· ≠ dot)).reverse
  if behind.length + 1 < name.length then some behind else none

def parent (p : Path) : Option Path :=
  let trimmed := trimEnd p.bytes
  if trimmed = [] then none
  else
    let before := trimEnd (trimmed.reverse.dropWhile (· ≠ slash)).reverse
    some ⟨if before = [] ∧ p.isAbsolute then [slash] else before⟩
where
  /-- Without the slashes and single dots at the end. -/
  trimEnd (bytes : List UInt8) : List UInt8 := (trimFront bytes.reverse).reverse
  trimFront : List UInt8 → List UInt8
    | [] => []
    | [b] => if b = slash then [] else [b]
    | b :: c :: rest =>
      if b = slash then trimFront (c :: rest)
      else if b = dot ∧ c = slash then trimFront (c :: rest)
      else b :: c :: rest

end Path

end TestImpact.Files
