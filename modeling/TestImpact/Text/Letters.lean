namespace TestImpact.Text

/-- The code points with Unicode's white-space property, as inclusive ranges. -/
def blankRanges : List (Nat × Nat) :=
  [(0x09, 0x0D), (0x20, 0x20), (0x85, 0x85), (0xA0, 0xA0), (0x1680, 0x1680), (0x2000, 0x200A),
   (0x2028, 0x2029), (0x202F, 0x202F), (0x205F, 0x205F), (0x3000, 0x3000)]

def isBlank (c : Char) : Bool :=
  blankRanges.any fun r => decide (r.1 ≤ c.toNat) && decide (c.toNat ≤ r.2)

def trim (cs : List Char) : List Char :=
  ((cs.dropWhile isBlank).reverse.dropWhile isBlank).reverse

def isBlankText (s : String) : Bool := s.toList.all isBlank

/-- The capitals that spell a letter, where they are ASCII. A letter whose capital is no ASCII
    letter stands for itself: it can never be part of an ASCII word. -/
def capitals (c : Char) : List Char :=
  if c.isLower then [c.toUpper]
  else if c = 'ß' then ['S', 'S']
  else if c = 'ı' then ['I']
  else if c = 'ſ' then ['S']
  else if c = 'ﬀ' then ['F', 'F']
  else if c = 'ﬁ' then ['F', 'I']
  else if c = 'ﬂ' then ['F', 'L']
  else if c = 'ﬃ' then ['F', 'F', 'I']
  else if c = 'ﬄ' then ['F', 'F', 'L']
  else if c = 'ﬅ' || c = 'ﬆ' then ['S', 'T']
  else [c]

/-- The small form of a letter, where it is ASCII; the Kelvin sign is the one letter outside ASCII
    that has one. -/
def small (c : Char) : Char :=
  if c = '\u212A' then 'k' else c.toLower

def replace (old new : Char) (cs : List Char) : List Char :=
  cs.map fun c => if c = old then new else c

def capitalWord (s : String) : String :=
  String.ofList (replace '-' '_' ((trim s.toList).flatMap capitals))

def smallWord (s : String) : String :=
  String.ofList (replace '_' '-' ((trim s.toList).map small))

def sameLetters (a b : String) : Bool := a.toList.map Char.toLower = b.toList.map Char.toLower

end TestImpact.Text
