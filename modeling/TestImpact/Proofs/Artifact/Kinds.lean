import TestImpact.Proofs.Artifact.Search
import TestImpact.Proofs.Files.FileName

namespace TestImpact.Artifact

open Files Text.Utf8

namespace Kind

variable {kind other : Kind} {path : Path}

/-- A text with the kind's stem in front, and with the kind's extension, in any case, behind the
    last dot, which is not the first character. -/
def Fits (kind : Kind) (text : String) : Prop :=
  kind.stem.toList <+: text.toList ∧ ∃ base ending, text = base ++ "." ++ ending ∧ base ≠ "" ∧
    '.' ∉ ending.toList ∧ ending.toList.map Char.toLower = kind.extension.toList

theorem small_extension (kind : Kind) :
    kind.extension.toList.map Char.toLower = kind.extension.toList := by
  cases kind <;> decide

theorem names_iff {name : Name} :
    kind.names name = true ↔ ∃ text, encode text = name ∧ kind.Fits text := by
  have cased (ending : String) : Text.sameLetters ending kind.extension = true ↔
      ending.toList.map Char.toLower = kind.extension.toList := by
    rw [Text.sameLetters, decide_eq_true_iff, small_extension]
  unfold names
  constructor
  · intro named
    split at named
    · rename_i text extension decoded ended
      obtain ⟨stem, same⟩ := Bool.and_eq_true_iff.mp named
      obtain ⟨bytes, behind, decoded'⟩ := Option.bind_eq_some_iff.mp ended
      rw [← encode_of_decode? decoded, ← encode_of_decode? decoded'] at behind
      obtain ⟨base, ending, split, given, bare, last⟩ := Path.extensionOf_encode_iff.mp behind
      refine ⟨text, encode_of_decode? decoded, List.isPrefixOf_iff_prefix.mp stem, base, ending,
        split, given, bare, ?_⟩
      rwa [← cased, ← encode_injective last]
    · cases named
  · rintro ⟨text, rfl, stem, base, ending, split, given, bare, same⟩
    have behind := Path.extensionOf_encode_iff.mpr ⟨base, ending, split, given, bare, rfl⟩
    simp only [decode?_encode, behind, Option.bind_some]
    exact Bool.and_eq_true_iff.mpr ⟨List.isPrefixOf_iff_prefix.mpr stem, (cased ending).mpr same⟩

theorem covers_iff :
    kind.covers path = true ↔ ∃ text, path.EndsIn (encode text) ∧ kind.Fits text := by
  unfold covers
  cases named : path.fileName with
  | none =>
    simp only [← Path.fileName_eq_some_iff, named]
    simp
  | some name =>
    simp only [← Path.fileName_eq_some_iff, named, names_iff, Option.some.injEq, @eq_comm _ name]

theorem fits_unique {text : String} (fits : kind.Fits text) (also : other.Fits text) :
    kind = other := by
  obtain ⟨stem, base, ending, split, given, bare, same⟩ := fits
  obtain ⟨stem', base', ending', split', given', bare', same'⟩ := also
  have behind := Path.extensionOf_encode_iff.mpr ⟨base, ending, split, given, bare, rfl⟩
  rw [Path.extensionOf_encode_iff.mpr ⟨base', ending', split', given', bare', rfl⟩] at behind
  have extensions : kind.extension.toList = other.extension.toList := by
    rw [← same, ← encode_injective (Option.some.inj behind), same']
  have apart : ∀ k k' : Kind, k.extension.toList = k'.extension.toList →
      (k.stem.toList <+: k'.stem.toList ∨ k'.stem.toList <+: k.stem.toList) → k = k' := by
    intro k k'
    cases k <;> cases k' <;> decide
  exact apart kind other extensions (List.prefix_or_prefix_of_prefix stem stem')

theorem covers_unique (covers : kind.covers path = true) (also : other.covers path = true) :
    kind = other := by
  obtain ⟨text, ends, fits⟩ := covers_iff.mp covers
  obtain ⟨text', ends', fits'⟩ := covers_iff.mp also
  have names := (Path.fileName_of_endsIn ends).symm.trans (Path.fileName_of_endsIn ends')
  rw [encode_injective (Option.some.inj names)] at fits
  exact fits_unique fits fits'

theorem mem_all (kind : Kind) : kind ∈ all := by
  cases kind <;> decide

theorem ofPath_eq_some_iff : ofPath path = some kind ↔ kind.covers path = true := by
  have passes {k : Kind} (found : ofPath path = some k) : k.covers path = true :=
    (List.find?_eq_some_iff_append.mp found).1
  constructor
  · exact passes
  · intro covers
    cases found : ofPath path with
    | none => exact absurd covers (List.find?_eq_none.mp found kind kind.mem_all)
    | some other => rw [covers_unique (passes found) covers]

end Kind

theorem covers_of_mem_find {t : FileTree} {kind : Kind} {paths found : List Path} {p : Path}
    (ended : find t kind paths = .ok found) (member : p ∈ found) : kind.covers p = true := by
  unfold find at ended
  cases finished : search t kind [] paths with
  | error cause => simp [finished, Except.map] at ended
  | ok s =>
    simp only [finished, Except.map, Except.ok.injEq] at ended
    obtain ⟨visits, searched⟩ := searched t kind List.nodup_nil finished
    have artifact := (List.mem_filter.mp (searched.artifacts.mem_iff.mp (ended ▸ member))).2
    unfold isArtifact at artifact
    split at artifact
    · exact (of_decide_eq_true artifact).2
    · cases artifact

/-- A path is of a kind if it ends in a name that is a text, has the kind's stem in front and its
    extension, in any case, behind its last dot, with something before that. No two kinds have such
    a path in common, so one is told by its name, and what is found for two kinds is apart. -/
theorem kinds_told_by_name :
    (∀ (kind : Kind) (path : Path), kind.covers path = true ↔
      ∃ text, path.EndsIn (encode text) ∧ kind.Fits text) ∧
    (∀ (kind other : Kind) (path : Path), kind.covers path = true → other.covers path = true →
      kind = other) ∧
    (∀ (kind : Kind) (path : Path), Kind.ofPath path = some kind ↔ kind.covers path = true) ∧
    (∀ path : Path, Kind.ofPath path = none ↔ ∀ kind : Kind, kind.covers path = false) ∧
    ∀ (t : FileTree) (kind other : Kind) (paths found found' : List Path),
      find t kind paths = .ok found → find t other paths = .ok found' → kind ≠ other →
        found.Disjoint found' := by
  refine ⟨fun _ _ => Kind.covers_iff, fun _ _ _ => Kind.covers_unique,
    fun _ _ => Kind.ofPath_eq_some_iff, fun path => ?_, ?_⟩
  · rw [Option.eq_none_iff_forall_ne_some]
    refine forall_congr' fun kind => ?_
    rw [Ne, Kind.ofPath_eq_some_iff, Bool.not_eq_true]
  · intro t kind other paths found found' ended ended' apart p member member'
    exact apart (Kind.covers_unique (covers_of_mem_find ended member)
      (covers_of_mem_find ended' member'))

example : Kind.ofPath (.ofString "out/test-list.1.JSON//.") = some .testList := by cbv

example : Kind.ofPath (.ofString ".exec") = none := by cbv

end TestImpact.Artifact
