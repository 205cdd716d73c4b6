import TestImpact.Files.Cause
import TestImpact.Files.Path
import TestImpact.Table

namespace TestImpact.Files

/-- Where an entry really is: the names of the directories from the root on, and its own. -/
abbrev Location := List Name

inductive Node
  | directory
  | file (content : List UInt8)
  /-- A symbolic link to a path, which is taken from the link's own directory. -/
  | link (target : Path)
  /-- A device that is empty to read and swallows what is written. -/
  | sink
  /-- A file that cannot be opened, neither to be read nor to be written. -/
  | barred (cause : Cause)
  deriving DecidableEq, Repr

/-- A file system: the entries below the root, the directory that relative paths start from, and
    the directories that cannot be listed. -/
structure FileTree where
  nodes : Table Location Node := .empty
  home : Location := []
  closed : Table Location Cause := .empty

namespace FileTree

def node? (t : FileTree) (place : Location) : Option Node :=
  if place = [] then some .directory else t.nodes.get? place

def put (t : FileTree) (place : Location) (n : Node) : FileTree :=
  { t with nodes := t.nodes.insert place n }

/-- The steps of a path. A slash at its end is an empty step, which asks for a directory. -/
def steps (p : Path) : List Name :=
  let parts := p.bytes.splitOn slash
  let named := parts.filter (· ≠ [])
  if named ≠ [] ∧ parts.getLast? = some [] then named ++ [[]] else named

def linkLimit : Nat := 40

def nameLimit : Nat := 255

def pathLimit : Nat := 4096

inductive Place
  | found (place : Location)
  | vacant (place : Location)
  deriving DecidableEq, Repr

inductive Purpose
  | use
  /-- A file is made if it is not there yet. -/
  | create
  deriving DecidableEq, Repr

def endsInSlash (rest : List Name) : Bool := !rest.isEmpty && rest.all (· = [])

/-- Walks along names until a link has to be followed, which `follow` does. No file is made under a
    name with a slash behind it. -/
def walkNames (t : FileTree) (purpose : Purpose)
    (follow : Location → List Name → Except Cause Place) :
    Location → List Name → Except Cause Place
  | place, [] => .ok (.found place)
  | place, name :: rest =>
    if t.node? place ≠ some .directory then .error .notDirectory
    else if name = [] ∨ name = [dot] then walkNames t purpose follow place rest
    else if name = [dot, dot] then walkNames t purpose follow place.dropLast rest
    else if purpose = .create ∧ endsInSlash rest then .error .isDirectory
    else if nameLimit < name.length then .error .nameTooLong
    else
      match t.node? (place ++ [name]) with
      | none => if rest = [] then .ok (.vacant (place ++ [name])) else .error .notFound
      | some (.link target) =>
        follow (if target.isAbsolute then [] else place) (steps target ++ rest)
      | some _ => walkNames t purpose follow (place ++ [name]) rest

def walk (t : FileTree) (purpose : Purpose) : Nat → Location → List Name → Except Cause Place
  | 0 => walkNames t purpose fun _ _ => .error .tooManyLinks
  | links + 1 => walkNames t purpose (walk t purpose links)

def checkPath (p : Path) : Except Cause Unit :=
  if p.bytes.contains 0 then .error .nulInName
  else if p.bytes = [] then .error .notFound
  else if pathLimit ≤ p.bytes.length then .error .nameTooLong
  else .ok ()

def locate (t : FileTree) (purpose : Purpose) (p : Path) : Except Cause Place := do
  checkPath p
  walk t purpose linkLimit (if p.isAbsolute then [] else t.home) (steps p)

def resolve (t : FileTree) (p : Path) : Except Cause Location := do
  match ← t.locate .use p with
  | .found place => return place
  | .vacant _ => .error .notFound

def lookUp (t : FileTree) (p : Path) : Except Cause Node := do
  let place ← t.resolve p
  match t.node? place with
  | some n => return n
  | none => .error .notFound

/-- The length of the path from the root to a place below it. -/
def reach : Location → Nat
  | [] => 0
  | name :: rest => name.length + 1 + reach rest

/-- Whether the names behind a place are good for a directory only. -/
def asksDirectory : List Name → Bool
  | [] => false
  | name :: rest =>
    if name = [] ∨ name = [dot] then rest.isEmpty || asksDirectory rest else name = [dot, dot]

/-- Whether a path from the root to a place on the way is too long for the system. It takes a slash
    more where the place is checked to be a directory. What a link leads to `follow` looks at. -/
def straysAlong (t : FileTree) (follow : Location → List Name → Bool) :
    Location → List Name → Bool
  | _, [] => false
  | place, name :: rest =>
    if name = [] ∨ name = [dot] then straysAlong t follow place rest
    else if name = [dot, dot] then straysAlong t follow place.dropLast rest
    else
      match t.node? (place ++ [name]) with
      | some (.link target) =>
        pathLimit ≤ reach (place ++ [name]) ||
          follow (if target.isAbsolute then [] else place) (steps target ++ rest)
      | _ =>
        pathLimit ≤ reach (place ++ [name]) + (asksDirectory rest).toNat ||
          straysAlong t follow (place ++ [name]) rest

def strays (t : FileTree) : Nat → Location → List Name → Bool
  | 0 => straysAlong t fun _ _ => false
  | links + 1 => straysAlong t (strays t links)

/-- The canonical path of what a path leads to is put together name by name from the root on, and
    each time it has to be short enough to be looked up. -/
def checkCanonical (t : FileTree) (p : Path) : Except Cause Unit :=
  bif t.strays linkLimit (if p.isAbsolute then [] else t.home) (steps p) then .error .nameTooLong
  else .ok ()

def isDirectory (t : FileTree) (p : Path) : Bool :=
  match t.lookUp p with
  | .ok .directory => true
  | _ => false

def precedes : Name → Name → Bool
  | [], _ => true
  | _ :: _, [] => false
  | a :: as, b :: bs => if a = b then precedes as bs else a < b

def names (t : FileTree) (place : Location) : List Name :=
  (t.nodes.keys.filterMap fun k =>
    if k.dropLast = place then k.getLast? else none).mergeSort precedes

def list (t : FileTree) (directory : Location) : Except Cause (List Name) :=
  match t.closed.get? directory with
  | some cause => .error cause
  | none => .ok (t.names directory)

def read (t : FileTree) (p : Path) : Except Cause (List UInt8) := do
  match ← t.lookUp p with
  | .file content => return content
  | .sink => return []
  | .barred cause => .error cause
  | .directory | .link _ => .error .isDirectory

def readText (t : FileTree) (p : Path) : Except Cause String := do
  match Text.Utf8.decode? (← t.read p) with
  | some s => return s
  | none => .error .notUtf8

/-- Writes a whole file, or fails and leaves all as it was: no file is left half written. A new one
    is made where a path, or the last link on it, leads to a vacant place. -/
def write (t : FileTree) (p : Path) (content : List UInt8) : Except Cause FileTree := do
  match ← t.locate .create p with
  | .vacant place => return t.put place (.file content)
  | .found place =>
    match t.node? place with
    | some .sink => return t
    | some (.file _) => return t.put place (.file content)
    | some (.barred cause) => .error cause
    | _ => .error .isDirectory

/-- Makes one directory. Its last step has to be a new name; links there are not followed. -/
def makeDirectory (t : FileTree) (p : Path) : Except Cause FileTree := do
  checkPath p
  let named := (p.bytes.splitOn slash).filter (· ≠ [])
  let base := if p.isAbsolute then [] else t.home
  match named.getLast? with
  | none => .error .alreadyExists
  | some name =>
    match ← walk t .use linkLimit base (named.dropLast ++ [[]]) with
    | .vacant _ => .error .notFound
    | .found parent =>
      if name = [dot] ∨ name = [dot, dot] then .error .alreadyExists
      else if nameLimit < name.length then .error .nameTooLong
      else if (t.node? (parent ++ [name])).isSome then .error .alreadyExists
      else return t.put (parent ++ [name]) .directory

/-- Makes a directory and those that it lies in. Each turn goes on with a shorter path. -/
def makeDirectories (t : FileTree) (p : Path) : Nat → FileTree × Except Cause Unit
  | 0 => (t, .error .notFound)
  | turns + 1 =>
    if p.bytes = [] then (t, .ok ())
    else
      match t.makeDirectory p with
      | .ok t' => (t', .ok ())
      | .error cause =>
        if cause = .notFound then
          match p.parent with
          | none => (t, .error (.other "failed to create whole tree"))
          | some parent =>
            match makeDirectories t parent turns with
            | (t', .error cause) => (t', .error cause)
            | (t', .ok ()) =>
              match t'.makeDirectory p with
              | .ok t'' => (t'', .ok ())
              | .error cause => (t', if t'.isDirectory p then .ok () else .error cause)
        else (t, if t.isDirectory p then .ok () else .error cause)

/-- Makes a directory and those that it lies in; what was made before a failure stays. -/
def ensureDirectory (t : FileTree) (p : Path) : FileTree × Except Cause Unit :=
  t.makeDirectories p (p.bytes.length + 1)

end FileTree

end TestImpact.Files
