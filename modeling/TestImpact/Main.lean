import Std.Async.DNS
import Std.Async.TCP
import Std.Time.DateTime.Timestamp
import TestImpact.Command.Dialogue
import TestImpact.Web.Message

namespace TestImpact.Main

open Command (Answer Dialogue Question)
open Files (FileTree Location Node Path)

def systemCause (code : UInt32) : Files.Cause :=
  .system (if code < 0x80000000 then code.toNat else 0x100000000 - code.toNat)

def causeOf : IO.Error → Files.Cause
  | .noFileOrDirectory _ code _ | .interrupted _ code _ => systemCause code
  | .alreadyExists _ code _ | .invalidArgument _ code _ | .permissionDenied _ code _
  | .resourceExhausted _ code _ | .inappropriateType _ code _ | .noSuchThing _ code _ =>
    systemCause code
  | .otherError code _ | .resourceBusy code _ | .resourceVanished code _
  | .unsupportedOperation code _ | .hardwareFault code _ | .unsatisfiedConstraints code _
  | .illegalOperation code _ | .protocolError code _ | .timeExpired code _ => systemCause code
  | .unexpectedEof => .other "unexpected end of file"
  | .userError text => .other text

/-! ## Files -/

structure Glimpse where
  tree : FileTree := {}
  listed : List Location := []

def locationOf (real : String) : Location := (Path.ofString real).parts

def Glimpse.put (g : Glimpse) (place : Location) (n : Node) : Glimpse :=
  { g with tree := g.tree.put place n }

def Glimpse.close (g : Glimpse) (place : Location) (cause : Files.Cause) : Glimpse :=
  { g with tree := { g.tree with closed := g.tree.closed.insert place cause } }

def Glimpse.putDirectories (g : Glimpse) (place : Location) : Glimpse :=
  (List.range place.length).foldl (fun g n => g.put (place.take (n + 1)) .directory) g

/-- What a link leads to: a real place, or nothing, as no entry has a zero byte for its name, or the
    link itself. -/
def linkTarget (path name : String) : IO Path := do
  match ← (IO.FS.realPath path).toBaseIO with
  | .ok real => return .ofString real.toString
  | .error e =>
    return if causeOf e = .tooManyLinks then .ofString name else ⟨[Files.slash, 0]⟩

/-- Looks at one entry of a directory. Of files that are not wanted only the name counts. -/
def lookAt (wanted : Path → Bool) (g : Glimpse) (directory name : String) : IO Glimpse := do
  let .ok parent ← (IO.FS.realPath directory).toBaseIO | return g
  let path := parent / name
  let .ok info ← path.symlinkMetadata.toBaseIO | return g
  let above := locationOf parent.toString
  let place := above ++ [Text.Utf8.encode name]
  let g := g.putDirectories above
  match info.type with
  | .dir => return g.put place .directory
  | .symlink => return g.put place (.link (← linkTarget path.toString name))
  | .file =>
    if wanted (.ofString name) then
      match ← (IO.FS.readBinFile path).toBaseIO with
      | .ok content => return g.put place (.file content.data.toList)
      | .error e => return g.put place (.barred (causeOf e))
    else return g.put place (.file [])
  | .other => return g.put place .sink

partial def lookBelow (wanted : Path → Bool) (g : Glimpse) (directory : String) : IO Glimpse := do
  let .ok real ← (IO.FS.realPath directory).toBaseIO | return g
  let place := locationOf real.toString
  if place ∈ g.listed then return g
  let g := { g.putDirectories place with listed := place :: g.listed }
  match ← real.readDir.toBaseIO with
  | .error e => return g.close place (causeOf e)
  | .ok entries =>
    entries.toList.foldlM (fun g entry => do
      let g ← lookAt wanted g real.toString entry.fileName
      lookBelow wanted g entry.path.toString) g

def lookAlong (wanted : Path → Bool) (home : String) (g : Glimpse) (p : Path) : IO Glimpse := do
  let start := if p.isAbsolute then "/" else home
  let (g, path) ← p.parts.foldlM (fun (g, above) part => do
    let name := Text.Utf8.lossy part
    return (← lookAt wanted g above name, above ++ "/" ++ name)) (g, start)
  lookBelow wanted g path

def filesFor (request : Command.Request) : IO FileTree := do
  let home := (← IO.currentDir).toString
  let place := locationOf home
  let none : Glimpse := { tree := { home := place } }
  let g ← request.searched.foldlM (lookAlong request.reads home) (none.putDirectories place)
  return g.tree

def attempt (x : IO Unit) : IO Answer := do
  match ← x.toBaseIO with
  | .ok () => return .done
  | .error e => return .fileFault (causeOf e)

/-! ## The network -/

open Std.Async

def hostName (u : Web.Url) : String :=
  String.ofList ((u.host.getD "").toList.filter fun c => c ≠ '[' ∧ c ≠ ']')

def connect (u : Web.Url) : IO TCP.Socket.Client := do
  let port := (u.port <|> u.kind.defaultPort).getD 0
  let found ← (DNS.getAddrInfo (hostName u) (toString port)).block
  let socket ← TCP.Socket.Client.mk
  match found.toList.head? with
  | some (.v4 addr) => (socket.connect (.v4 ⟨addr, port.toUInt16⟩)).block
  | some (.v6 addr) => (socket.connect (.v6 ⟨addr, port.toUInt16⟩)).block
  | none => throw (IO.userError "no address")
  return socket

partial def receive (socket : TCP.Socket.Client) (before : ByteArray) : IO ByteArray := do
  match ← (socket.recv? 65536).block with
  | some bytes => receive socket (before ++ bytes)
  | none => return before

/-- Sends a request over a connection of its own; only plain connections can be had. -/
def exchange (request : Web.Request) : IO Answer := do
  if request.url.scheme ≠ "http" then
    return .transportFault (.connectionFailed s!"no connection for {request.url.scheme}")
  match ← (connect request.url).toBaseIO with
  | .error e =>
    return .transportFault (.connectionFailed ("Connect error: " ++ (causeOf e).message))
  | .ok socket =>
    let received ← (do
      (socket.send ⟨request.encode.toArray⟩).block
      receive socket .empty : IO ByteArray).toBaseIO
    match received with
    | .error e => return .transportFault (.networkError (causeOf e).message)
    | .ok bytes =>
      match Web.Response.read bytes.data.toList with
      | some response => return .response response
      | none => return .transportFault (.networkError "Unexpected EOF")

/-! ## Commands -/

def freshToken : IO String := do
  let bytes ← IO.getRandomBytes 16
  return String.ofList (bytes.data.toList.flatMap fun b => (Nat.toDigits 16 (b.toNat + 256)).drop 1)

partial def makeDirectories (p : Path) : IO Unit := do
  match ← (IO.FS.createDir p.display).toBaseIO with
  | .ok () => return ()
  | .error e =>
    match decide (causeOf e = .notFound), p.parent with
    | true, some parent => do
      makeDirectories parent
      IO.FS.createDir p.display
    | _, _ =>
      let .ok info ← (do (← IO.FS.realPath p.display).metadata : IO IO.FS.Metadata).toBaseIO
        | throw e
      if info.type != .dir then throw e

def consult : Question → IO Answer
  | .ensureDirectory p => attempt (makeDirectories p)
  | .write p content => attempt (IO.FS.writeBinFile p.display ⟨content.toArray⟩)
  | .read p => do
    match ← (IO.FS.readBinFile p.display).toBaseIO with
    | .ok bytes => return .content bytes.data.toList
    | .error e => return .fileFault (causeOf e)
  | .send request => exchange request
  | .epochMillis => do
    return .number (← Std.Time.Timestamp.now).toMillisecondsSinceUnixEpoch.val
  | .stopwatch => do return .number (← IO.monoMsNow)
  | .token => do return .text (← freshToken)

def showLine (line : LogLine) : IO Unit :=
  if line.level = .debug then return () else IO.eprintln s!"{line.level.name.toUpper} {line.text}"

/-- Runs a command with the answers that are known, and again with each one more that it needs. -/
partial def converse (setup : Command.Setup Dialogue) (args : List String) (files : FileTree)
    (answers : List Answer) (shown : Nat) : IO UInt32 := do
  let run := Command.run setup args { files, answers }
  (run.log.drop shown).forM showLine
  match run.result, run.state.pending with
  | .ok outcome, _ =>
    IO.print outcome.output
    outcome.report.forM fun text => IO.eprintln text
    return outcome.exit.toUInt32
  | .error _, some question =>
    converse setup args files (answers ++ [← consult question]) run.log.length
  | .error _, none => throw (IO.userError "the command stopped without a question")

def knownVariables : IO (List (String × String)) := do
  let found ← Command.variableNames.mapM fun name => do
    return (← IO.getEnv name).map fun value => (name, value)
  return found.filterMap id

def perform (args : List String) : IO UInt32 := do
  let known ← knownVariables
  let environment := fun name => known.lookup name
  let files ← match Command.Request.read environment args with
    | .ok request => filesFor request
    | .error _ => pure {}
  let uptime := (← IO.monoMsNow) / 1000
  converse (Dialogue.setup environment uptime) args files [] 0

end TestImpact.Main

def main (args : List String) : IO UInt32 := TestImpact.Main.perform args
