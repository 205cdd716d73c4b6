import TestImpact.Artifact.Search
import TestImpact.Proofs.Collection.Recorded
import TestImpact.Proofs.Delivery.Upload
import TestImpact.Proofs.Files.Parent
import TestImpact.Proofs.Run.Execution

namespace TestImpact

open Action Files Text.Utf8

theorem Artifact.readFile_file {α : Type} {t : FileTree} {r : Json.Reader α} {file : Path}
    {content : List UInt8} {records : List α} (found : t.lookUp file = .ok (.file content))
    (read : Json.read (Json.Reader.list r) (units content) = .ok records) :
    readFile t r file = .ok records := by
  have held : t.read file = .ok content := by simp [FileTree.read, found]
  simp [readFile, held, read]

theorem Artifact.find_file {t : FileTree} {kind : Kind} {file : Path} {content : List UInt8}
    (found : t.lookUp file = .ok (.file content)) (covered : kind.covers file = true) :
    find t kind [file] = .ok [file] := by
  obtain ⟨place, resolved, there⟩ := FileTree.node?_of_lookUp found
  simp [find, search, placeOf, resolved, there, covered, Except.map, Search.add]

theorem Artifact.readAll_file {α : Type} {t : FileTree} {r : Json.Reader α} {kind : Kind}
    {file : Path} {content : List UInt8} {records : List α}
    (found : t.lookUp file = .ok (.file content)) (covered : kind.covers file = true)
    (read : Json.read (Json.Reader.list r) (units content) = .ok records) :
    readAll t r kind [file] = .ok records := by
  have here := readFile_file found read
  simp [readAll, find_file found covered, readFiles, here]

namespace Collector

variable {σ τ : Type}

theorem proper_executionsName (now : Int) : Proper (encode (executionsName now)) :=
  proper_stampedName now (by decide) (by decide) (by decide)

theorem covers_executionsName (directory : Path) (now : Int) :
    Artifact.Kind.testExecution.covers (directory.child (encode (executionsName now))) := by
  have named := Path.fileName_child_of_proper directory (proper_executionsName now)
  have stem : "test-execution".toList.isPrefixOf (executionsName now).toList := by
    rw [List.isPrefixOf_iff_prefix]
    exact ⟨_, (toList_stampedName now).symm⟩
  have extension : Path.extensionOf (encode (executionsName now)) = some (encode "json") :=
    extensionOf_stampedName now (by decide)
  have letters : Text.sameLetters "json" "json" = true := by decide
  have follows : Artifact.Kind.testExecution.names (encode (executionsName now)) = true := by
    simp only [Artifact.Kind.names, decode?_encode, extension, Option.bind_some]
    exact Bool.and_eq_true_iff.mpr ⟨stem, letters⟩
  rw [Artifact.Kind.covers, named]
  exact follows

theorem executionsText_ne_nil (executions : List Execution) :
    encode (executionsText executions) ≠ [] := by
  intro empty
  have read := Execution.read_list_pretty executions
  rw [show encode (Json.Value.list (executions.map Execution.toJson)).pretty = [] from empty,
    units] at read
  simp [Json.read, Json.Tree.ofTokens, Json.Token.scan, Json.Progress.run, Json.endWithin,
    Json.abandon, Json.Reader.list, Json.Reader.refuse, Json.Tree.found] at read

theorem write_of_writeExecutions {setup : Setup (FileTree × τ)} {directory file : Path}
    {executions : List Execution} {x : FileTree × τ} {t' : FileTree} {w' : τ}
    (onDisk : setup.disk = treeDisk) (keeps : setup.artifactDirectory = some directory)
    (written : (writeExecutions setup executions).outcome x = (.ok (some file), t', w')) :
    ∃ now t, file = directory.child (encode (executionsName now)) ∧
      FileTree.write t file (encode (executionsText executions)) = .ok t' := by
  obtain ⟨t, w⟩ := x
  rcases made : t.ensureDirectory directory with ⟨t₁, cause | _⟩
  · simp [writeExecutions, keeps, onDisk, made] at written
  · rcases told : setup.clock.epochMillis.outcome (t₁, w) with ⟨h | now, t₂, w₂⟩
    · simp [writeExecutions, keeps, onDisk, made, told] at written
    · cases wrote : t₂.write (directory.child (encode (executionsName now)))
          (encode (executionsText executions)) with
      | error cause => simp [writeExecutions, keeps, onDisk, made, told, wrote] at written
      | ok t₃ =>
        simp [writeExecutions, keeps, onDisk, made, told, wrote] at written
        obtain ⟨rfl, rfl, rfl⟩ := written
        exact ⟨now, t₂, rfl, wrote⟩

def Writes (setup : Setup σ) (id : String) (x : Collector × σ) (file : Path) (w' : σ) : Prop :=
  ∃ r s, x.1.sessions.get? id = some r ∧ x.1.arena.get? id = some s ∧
    (writeExecutions setup r.executions).outcome x.2 = (.ok (some file), w')

theorem endRun_of_writes {setup : Setup σ} {id : String} {x : Collector × σ} {file : Path} {w' : σ}
    (writes : Writes setup id x file w') :
    ∃ s, x.1.arena.get? id = some s ∧ ∀ upload, (endRun setup id upload).outcome x =
      (if upload then onSnd (deliver setup id s) else pure ()).outcome (x.1.without id, w') := by
  obtain ⟨c, w⟩ := x
  obtain ⟨r, s, found, held, written⟩ := writes
  dsimp only at found held written
  refine ⟨s, held, fun upload => ?_⟩
  cases upload <;> simp [outcome_endRun, found, held, written]

/-- Whatever was asked of a collector before, and whatever its recorder answered: where the end of a
    session writes its executions, and not through a link, the file is read as the executions of
    just those tests of the session that were ended. A device keeps nothing of what it is given. -/
theorem executions_read_back {setup : Setup (FileTree × τ)} {directory : Path}
    (onDisk : setup.disk = treeDisk) (keeps : setup.artifactDirectory = some directory)
    (ops : List Operation) (start : FileTree × τ) {before later : List Passage} {opening : Passage}
    (split : passages setup ops {} start = before ++ opening :: later) {id : String}
    (registers : opening.turn.Registers id) (once : ∀ p ∈ later, ¬ p.turn.Registers id)
    {file : Path} {t : FileTree} {w : τ}
    (writes : Writes setup id (after setup ops {} start) file (t, w)) :
    (∃ s, ∀ upload, (endRun setup id upload).outcome (after setup ops {} start) =
      (if upload then onSnd (deliver setup id s) else pure ()).outcome
        ((after setup ops {} start).1.without id, t, w)) ∧
    ∃ now, file = directory.child (encode (executionsName now)) ∧
      ((∀ target, ¬ t.EntryIs directory (encode (executionsName now)) (.link target)) →
        (∀ t', t'.read file = t.read file →
          Artifact.readAll t' Execution.reader .testExecution [file] = .ok (recorded id later)) ∨
        t.EntryIs directory (encode (executionsName now)) .sink) := by
  obtain ⟨s, -, goesOn⟩ := endRun_of_writes writes
  refine ⟨⟨s, goesOn⟩, ?_⟩
  obtain ⟨r, -, found, -, written⟩ := writes
  have reached := Reached.new.passages setup ops start
  rw [List.nil_append] at reached
  have executions := reached.executions split registers once found
  obtain ⟨now, t₀, rfl, wrote⟩ := write_of_writeExecutions onDisk keeps written
  refine ⟨now, rfl, fun unlinked => ?_⟩
  rcases FileTree.read_of_write_child (proper_executionsName now) wrote unlinked with held | device
  · refine .inl fun t' same => ?_
    have there := FileTree.lookUp_of_read (same.trans held) (executionsText_ne_nil r.executions)
    have content := Execution.read_list_pretty r.executions
    rw [← executions]
    exact Artifact.readAll_file there (covers_executionsName directory now) content
  · exact .inr device

def Setup.forgetful : Setup (FileTree × Unit) where
  recorder :=
    { reset := fun _ => .done ()
      beginWindow := fun _ _ => .done ()
      endWindow := fun _ path =>
        if path = "lost" then .fail (.connectivity "recorder" "gone") else .done "src/a.c:1-2"
      buildReport := fun _ _ => .done "report" }
  store := ⟨"nowhere", fun _ => .done (.uploaded "nowhere")⟩
  format := .testwise
  artifactDirectory := some (.ofString "out")
  disk := treeDisk
  clock := .at 5
  freshId := .done "s"

def Setup.bare : FileTree × Unit := ({}, ())

def quoted : Execution := ⟨"\"é\" \\ \t", 18446744073709551615, .failure, some "\x01\n"⟩

def lost : Execution := ⟨"lost", 1, .passed, none⟩

def Operation.quoting : List Operation :=
  [.register ⟨none, true, none⟩, .startTest "s" quoted.path, .endTest "s" lost true,
    .endTest "s" quoted true, .startTest "s" lost.path, .endTest "s" lost false]

theorem quoted_reads_back :
    let file := Path.ofString "out/test-execution-5.json"
    ∃ (opening : Passage) (later : List Passage) (t : FileTree),
      passages .forgetful Operation.quoting {} Setup.bare = [] ++ opening :: later ∧
      opening.turn.Registers "s" ∧ (∀ p ∈ later, ¬ p.turn.Registers "s") ∧
      Writes .forgetful "s" (after .forgetful Operation.quoting {} Setup.bare) file (t, ()) ∧
      recorded "s" later = [quoted] ∧
      Artifact.readAll t Execution.reader .testExecution [file] = .ok [quoted] := by
  intro file
  obtain ⟨opening, later, split, registers⟩ : ∃ opening later,
      passages .forgetful Operation.quoting {} Setup.bare = [] ++ opening :: later ∧
      opening.turn.Registers "s" := ⟨_, _, rfl, _, _, rfl, rfl⟩
  have operations := operations_passages .forgetful Operation.quoting {} Setup.bare
  rw [split, List.nil_append, List.map_cons, Operation.quoting, List.cons.injEq] at operations
  have once : ∀ p ∈ later, ¬ p.turn.Registers "s" := by
    rintro p member ⟨request, clusters, operation, -⟩
    have among := List.mem_map_of_mem (f := (·.turn.operation)) member
    rw [operations.2, operation] at among
    simp at among
  have quotes : recorded "s" later = [quoted] := by
    have all : recorded "s" (opening :: later) = [quoted] := by
      rw [← List.nil_append (opening :: later), ← split]
      decide +kernel
    simpa [recorded, Turn.recorded?, operations.1] using all
  let written := (writeExecutions Setup.forgetful [quoted]).outcome Setup.bare
  have wrote : written = (.ok (some file), written.2.1, ()) := by
    have told : written.1.toOption = some (some file) := by decide +kernel
    rcases ran : written with ⟨h | path, t, w⟩ <;> rw [ran] at told <;> cases told
    rfl
  have writes : Writes .forgetful "s" (after .forgetful Operation.quoting {} Setup.bare) file
      (written.2.1, ()) := ⟨⟨none, [quoted]⟩, ⟨"s", 1⟩, by decide +kernel, by decide +kernel, wrote⟩
  obtain ⟨-, now, named, reads⟩ :=
    executions_read_back rfl rfl Operation.quoting Setup.bare split registers once writes
  have fifth : file = (Path.ofString "out").child (encode (executionsName 5)) := by decide +kernel
  have stamped := Path.child_injective (named.symm.trans fifth)
  have entry : (written.2.1.entry (.ofString "out") (encode (executionsName 5))).toOption.bind
      written.2.1.node? = some (.file (encode (executionsText [quoted]))) := by decide +kernel
  -- What stands under the name is a file, hence no link and no device.
  have only (n : Node)
      (there : written.2.1.EntryIs (.ofString "out") (encode (executionsName now)) n) :
      n = .file (encode (executionsText [quoted])) := by
    rw [stamped] at there
    obtain ⟨place, here, there⟩ := there
    rw [here] at entry
    exact Option.some.inj (there.symm.trans entry)
  have unlinked (target : Path)
      (link : written.2.1.EntryIs (.ofString "out") (encode (executionsName now))
        (.link target)) : False := by
    cases only _ link
  rcases reads unlinked with reads | device
  · exact ⟨opening, later, written.2.1, split, registers, once, writes, quotes,
      quotes ▸ reads _ rfl⟩
  · cases only _ device

end Collector

end TestImpact
