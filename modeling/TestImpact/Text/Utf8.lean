namespace TestImpact.Text.Utf8

abbrev Bytes := List UInt8

/-- What a lead byte announces: how many bytes follow, and the range of the first of them. The
    narrower ranges keep out overlong forms, surrogates and code points past the last one. -/
def announced (lead : UInt8) : Option (Nat × UInt8 × UInt8) :=
  if lead < 0x80 then some (0, 0x80, 0xBF)
  else if lead < 0xC2 then none
  else if lead < 0xE0 then some (1, 0x80, 0xBF)
  else if lead = 0xE0 then some (2, 0xA0, 0xBF)
  else if lead = 0xED then some (2, 0x80, 0x9F)
  else if lead < 0xF0 then some (2, 0x80, 0xBF)
  else if lead = 0xF0 then some (3, 0x90, 0xBF)
  else if lead < 0xF4 then some (3, 0x80, 0xBF)
  else if lead = 0xF4 then some (3, 0x80, 0x8F)
  else none

def follow : Nat → UInt8 → UInt8 → Bytes → Nat
  | 0, _, _, _ => 0
  | _ + 1, _, _, [] => 0
  | n + 1, lo, hi, b :: rest => if lo ≤ b ∧ b ≤ hi then follow n 0x80 0xBF rest + 1 else 0

def leadBits (lead : UInt8) : Nat → Nat
  | 0 => lead.toNat
  | 1 => lead.toNat % 32
  | 2 => lead.toNat % 16
  | _ => lead.toNat % 8

/-- The character that begins a byte string, or `none` for a start that belongs to no character,
    with the number of further bytes that it takes. -/
def head (lead : UInt8) (rest : Bytes) : Option Char × Nat :=
  match announced lead with
  | none => (none, 0)
  | some (n, lo, hi) =>
    let found := follow n lo hi rest
    if found = n then
      let code := (rest.take n).foldl (fun acc b => acc * 64 + b.toNat % 64) (leadBits lead n)
      (some (Char.ofNat code), n)
    else (none, found)

def lossyChars : Bytes → List Char
  | [] => []
  | lead :: rest =>
    (head lead rest).1.getD '\uFFFD' :: lossyChars (rest.drop (head lead rest).2)
  termination_by bytes => bytes.length
  decreasing_by simp only [List.length_drop, List.length_cons]; omega

/-- The characters of a byte string, with `none` for every byte that belongs to no character. -/
def units : Bytes → List (Option Char)
  | [] => []
  | lead :: rest =>
    match head lead rest with
    | (some c, n) => some c :: units (rest.drop n)
    | (none, _) => none :: units rest
  termination_by bytes => bytes.length
  decreasing_by
    · simp only [List.length_drop, List.length_cons]; omega
    · simp only [List.length_cons]; omega

def encode (s : String) : Bytes := s.toUTF8.data.toList

def decode? (bytes : Bytes) : Option String := String.fromUTF8? ⟨bytes.toArray⟩

def lossy (bytes : Bytes) : String :=
  (decode? bytes).getD (String.ofList (lossyChars bytes))

theorem decode?_encode (s : String) : decode? (encode s) = some s := by
  show String.fromUTF8? s.toByteArray = some s
  rw [String.fromUTF8?, dif_pos s.isValidUTF8]
  rfl

theorem lossy_encode (s : String) : lossy (encode s) = s := by
  rw [lossy, decode?_encode]
  rfl

end TestImpact.Text.Utf8
