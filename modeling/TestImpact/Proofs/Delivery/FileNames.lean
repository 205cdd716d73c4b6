import TestImpact.Proofs.Artifact.Kinds
import TestImpact.Proofs.Collection.ExecutionFiles

namespace TestImpact

open Files Text.Utf8

section StampedNames

variable {stem stem' extension extension' : String} {now later : Int}

theorem stem_prefix_stampedName (now : Int) :
    stem.toList <+: (stampedName stem now extension).toList := by
  rw [toList_stampedName]
  exact List.prefix_append _ _

/-- The stems of one name go on in the same way, as far as both go. -/
theorem stems_comparable
    (same : stampedName stem now extension = stampedName stem' later extension') :
    stem.toList <+: stem'.toList ∨ stem'.toList <+: stem.toList :=
  List.prefix_or_prefix_of_prefix (stem_prefix_stampedName now)
    (same ▸ stem_prefix_stampedName later)

end StampedNames

namespace Report.Format

variable {f g : Format} {kind : Artifact.Kind} {now later : Int}

theorem eq_of_fileName (same : f.fileName now = g.fileName later) : f = g ∧ now = later := by
  have apart : ∀ f g : Format,
      (f.stem.toList <+: g.stem.toList ∨ g.stem.toList <+: f.stem.toList) → f = g := by
    intro f g
    cases f <;> cases g <;> decide
  obtain rfl := apart f g (stems_comparable same)
  exact ⟨rfl, stampedName_injective now same⟩

theorem not_fits_fileName (f : Format) (now : Int) : ¬ kind.Fits (f.fileName now) := by
  rintro ⟨stem, base, ending, split, given, bare, same⟩
  have last : dot ∉ encode f.extension := by cases f <;> decide
  have behind := Path.extensionOf_encode_iff.mpr ⟨base, ending, split, given, bare, rfl⟩
  rw [show Path.extensionOf (encode (f.fileName now)) = some (encode f.extension) from
    extensionOf_stampedName now last] at behind
  obtain rfl : f.extension = ending := encode_injective (Option.some.inj behind)
  have apart : ∀ (f : Format) (k : Artifact.Kind),
      f.extension.toList.map Char.toLower = k.extension.toList →
      ¬ (f.stem.toList <+: k.stem.toList ∨ k.stem.toList <+: f.stem.toList) := by
    intro f k
    cases f <;> cases k <;> decide
  exact apart f kind same
    (List.prefix_or_prefix_of_prefix (stem_prefix_stampedName now) stem)

theorem not_covers_fileName {path : Path} (named : path.fileName = some (encode (f.fileName now))) :
    kind.covers path = false := by
  rw [Bool.eq_false_iff]
  intro covers
  obtain ⟨text, ends, fits⟩ := Artifact.Kind.covers_iff.mp covers
  have same := named.symm.trans (Path.fileName_of_endsIn ends)
  rw [← encode_injective (Option.some.inj same)] at fits
  exact f.not_fits_fileName now fits

theorem fileName_ne_executionsName (f : Format) (now later : Int) :
    f.fileName now ≠ Collector.executionsName later := by
  intro same
  have apart : ∀ f : Format, ¬ (f.stem.toList <+: "test-execution".toList ∨
      "test-execution".toList <+: f.stem.toList) := by
    intro f
    cases f <;> decide
  exact apart f (stems_comparable same)

end Report.Format

theorem Collector.covers_of_executionsName {path : Path} {now : Int}
    (named : path.fileName = some (encode (executionsName now))) :
    Artifact.Kind.testExecution.covers path = true := by
  have covers := covers_executionsName path now
  rwa [Artifact.Kind.covers, Path.fileName_child_of_proper path (proper_executionsName now),
    ← named] at covers

/-- The name of a report says its format and its time, and no kind of artifact is named so; the
    executions of a session have the name of test executions and of no report. So the files of one
    directory are kept apart by their names, and a search for artifacts picks up no report and the
    executions for what they are. -/
theorem names_kept_apart :
    (∀ (f g : Report.Format) (now later : Int),
      f.fileName now = g.fileName later → f = g ∧ now = later) ∧
    (∀ (f : Report.Format) (now later : Int), f.fileName now ≠ Collector.executionsName later) ∧
    (∀ (directory : Path) (f : Report.Format) (now : Int),
      Artifact.Kind.ofPath (directory.child (encode (f.fileName now))) = none) ∧
    (∀ (directory : Path) (now : Int),
      Artifact.Kind.ofPath (directory.child (encode (Collector.executionsName now))) =
        some .testExecution) ∧
    (∀ (directory : Path) (f g : Report.Format) (now later : Int),
      (directory.child (encode (f.fileName now)) = directory.child (encode (g.fileName later)) →
        f = g ∧ now = later) ∧
      directory.child (encode (f.fileName now)) ≠
        directory.child (encode (Collector.executionsName later))) ∧
    ∀ (t : FileTree) (kind : Artifact.Kind) (paths found : List Path) (p : Path),
      Artifact.find t kind paths = .ok found → p ∈ found →
        (∀ (f : Report.Format) (now : Int), p.fileName ≠ some (encode (f.fileName now))) ∧
        ∀ now : Int, p.fileName = some (encode (Collector.executionsName now)) →
          kind = .testExecution := by
  refine ⟨fun f g now later => Report.Format.eq_of_fileName, fun f => f.fileName_ne_executionsName,
    fun directory f now => ?_, fun directory now => ?_,
    fun directory f g now later => ⟨fun same => ?_, fun same => ?_⟩,
    fun t kind paths found p ended member => ⟨fun f now named => ?_, fun now named => ?_⟩⟩
  · have named := Path.fileName_child_of_proper directory (f.proper_fileName now)
    rw [Option.eq_none_iff_forall_ne_some]
    intro kind covers
    rw [Artifact.Kind.ofPath_eq_some_iff, Report.Format.not_covers_fileName named] at covers
    cases covers
  · rw [Artifact.Kind.ofPath_eq_some_iff]
    exact Collector.covers_executionsName directory now
  · exact Report.Format.eq_of_fileName (encode_injective (Path.child_injective same))
  · exact f.fileName_ne_executionsName now later (encode_injective (Path.child_injective same))
  · have covers := Artifact.covers_of_mem_find ended member
    rw [Report.Format.not_covers_fileName named] at covers
    cases covers
  · exact Artifact.Kind.covers_unique (Artifact.covers_of_mem_find ended member)
      (Collector.covers_of_executionsName named)

def sharedDirectory : FileTree where
  nodes :=
    { entries :=
        [([encode (Collector.executionsName (-5))], .file []),
          ([encode (Report.Format.testwise.fileName (-5))], .file [])]
      distinct := by decide +kernel }

theorem shared_directory_kept_apart :
    let here := Path.ofString ""
    let report := here.child (encode (Report.Format.testwise.fileName (-5)))
    let executions := here.child (encode (Collector.executionsName (-5)))
    Artifact.Kind.ofPath report = none ∧ Artifact.Kind.ofPath executions = some .testExecution ∧
      report ≠ executions ∧
      Artifact.find sharedDirectory .testExecution [executions] = .ok [executions] ∧
      ∀ (f : Report.Format) (now : Int), executions.fileName ≠ some (encode (f.fileName now)) := by
  intro here report executions
  have there : sharedDirectory.lookUp executions = .ok (.file []) := by decide +kernel
  have found := Artifact.find_file there (Collector.covers_executionsName here (-5))
  obtain ⟨-, -, unnamed, named, apart, picked⟩ := names_kept_apart
  have unread := (picked _ _ _ _ _ found List.mem_cons_self).1
  exact ⟨unnamed .., named .., (apart here .testwise .testwise (-5) (-5)).2, found, unread⟩

end TestImpact
