import TestImpact.Json.Reader

namespace TestImpact.Json

/-- A member of a record: its name, how its value is read, and what stands for it when it is
    absent. A required member has nothing to stand for it. -/
structure Member (β : Type) where
  name : String
  reader : Reader β
  absent : Option β

namespace Member

variable {β : Type}

def required (name : String) (r : Reader β) : Member β := ⟨name, r, none⟩

def defaulting (name : String) (r : Reader β) (absent : β) : Member β := ⟨name, r, some absent⟩

def optional (name : String) (r : Reader β) : Member (Option β) :=
  ⟨name, Reader.optional r, some none⟩

def get (f : Member β) (bound : String → Option Tree) : Except Fault β :=
  match bound f.name with
  | some t => f.reader t
  | none =>
    match f.absent with
    | some b => .ok b
    | none => .error (.missingField f.name)

end Member

structure Slot where
  name : String
  isRequired : Bool
  check : Tree → Except Fault Unit

def Member.slot {β : Type} (f : Member β) : Slot :=
  ⟨f.name, f.absent.isNone, fun t => (f.reader t).map fun _ => ()⟩

structure Shape (α : Type) where
  name : String
  slots : List Slot
  build : (String → Option Tree) → Except Fault α

def boundMembers (slots : List Slot) (bound : List (String × Tree)) :
    List (TextToken × Tree) → Except Fault (List (String × Tree))
  | [] => .ok bound
  | (key, t) :: rest => do
    let name ← key.text
    match slots.find? (·.name = name) with
    | none =>
      t.skip
      boundMembers slots bound rest
    | some slot =>
      if (bound.lookup name).isSome then .error (.duplicateField name)
      else
        slot.check t
        boundMembers slots (bound ++ [(name, t)]) rest

def checkSpent : List Tree → ListStop → Except Fault Unit
  | [], .closed => .ok ()
  | [], .atEnd => .error .endInList
  | [], .trailingComma => .error .trailingComma
  | _, _ => .error .trailingCharacters

def boundItems (shape : String) (elements : Nat) (index : Nat) (stop : ListStop) :
    List Slot → List Tree → Except Fault (List (String × Tree))
  | [], items => do
    checkSpent items stop
    return []
  | slot :: slots, t :: items => do
    slot.check t
    let more ← boundItems shape elements (index + 1) stop slots items
    return (slot.name, t) :: more
  | slot :: slots, [] => do
    stop.check
    match (slot :: slots).findIdx? (·.isRequired) with
    | some i => .error (.wrongLength (index + i) shape elements)
    | none => return []

def Shape.reader {α : Type} (s : Shape α) : Reader α
  | .object members stop => do
    let bound ← boundMembers s.slots [] members
    stop.check
    s.build fun name => bound.lookup name
  | .list items stop => do
    let bound ← boundItems s.name s.slots.length 0 stop s.slots items
    s.build fun name => bound.lookup name
  | t => Reader.refuse ("struct " ++ s.name) t

inductive Alternative (α : Type)
  | bare (a : α)
  | carrying (r : Reader α)

def Alternative.named {α : Type} (choices : List (String × Alternative α)) (name : String) :
    Except Fault (Alternative α) :=
  match choices.lookup name with
  | some a => .ok a
  | none => .error (.unknownVariant name (choices.map Prod.fst))

/-- Reads one of several alternatives: its name as a string, or an object whose only member has the
    alternative's name. -/
def Alternative.reader {α : Type} (choices : List (String × Alternative α)) : Reader α
  | .text t => do
    let name ← t.text
    match ← Alternative.named choices name with
    | .bare a => return a
    | .carrying _ => .error (.wrongType .bareName "newtype variant")
  | .object [] .badKey => .error .keyNotText
  | .object [] .atEnd => .error .endInObject
  | .object [] _ => .error .noValue
  | .object ((key, t) :: others) stop => do
    let name ← key.text
    let a ← match ← Alternative.named choices name with
      | .bare a => (Reader.null t).map fun _ => a
      | .carrying r => r t
    match others, stop with
    | [], .closed => return a
    | [], .atEnd => .error .endInObject
    | _, _ => .error .noValue
  | .broken fault => .error fault
  | _ => .error .noValue

end TestImpact.Json
