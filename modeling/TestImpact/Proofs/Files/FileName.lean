import Mathlib.Data.List.TakeWhile
import Mathlib.Tactic.SplitIfs
import TestImpact.Proofs.Files.Parent
import TestImpact.Proofs.Text.Utf8

namespace TestImpact.Files

open Text.Utf8

/-- A path ends in a name of its own: in front of it stands nothing or a slash, and behind it only
    slashes, with single dots between them. -/
structure Path.EndsIn (p : Path) (name : Name) : Prop where
  proper : Proper name
  split : ∃ front, ∃ dots : List Name, p.bytes = front ++ name ++ dots.flatMap (slash :: ·) ∧
    (front = [] ∨ front.getLast? = some slash) ∧ ∀ piece ∈ dots, piece = [] ∨ piece = [dot]

theorem dot_mem_utf8EncodeChar {c : Char} (member : dot ∈ String.utf8EncodeChar c) :
    c = '.' := by
  have code : c.val.toNat = 46 := by
    unfold String.utf8EncodeChar at member
    generalize c.val.toNat = v at member ⊢
    have value : dot.toNat = 46 := rfl
    dsimp only at member
    split_ifs at member <;>
      simp only [List.mem_cons, List.not_mem_nil, or_false, ← UInt8.toNat_inj, value,
        UInt8.toNat_ofNat'] at member <;> omega
  exact Char.ext (UInt32.toNat_inj.mp code)

theorem dot_mem_encode_iff {s : String} : dot ∈ encode s ↔ '.' ∈ s.toList := by
  rw [encode_eq_flatMap, List.mem_flatMap]
  constructor
  · rintro ⟨c, member, inside⟩
    rwa [← dot_mem_utf8EncodeChar inside]
  · intro member
    exact ⟨'.', member, by decide⟩

theorem encode_dotted (base extension : String) :
    encode (base ++ "." ++ extension) = encode base ++ dot :: encode extension := by
  have single : encode "." = [dot] := by decide
  rw [encode_append, encode_append, single]
  simp

namespace Path

variable {p : Path} {name extension : Name}

theorem fileName_eq_some_iff_getLast? : p.fileName = some name ↔
    p.parts.getLast? = some name ∧ name ≠ [dot, dot] := by
  unfold fileName
  cases p.parts.getLast? with
  | none => simp
  | some last =>
    by_cases up : last = [dot, dot]
    · simp [up, eq_comm]
    · simp only [up, if_false, Option.some.injEq]
      exact ⟨fun same => ⟨same, same ▸ up⟩, And.left⟩

theorem fileName_of_endsIn (ends : p.EndsIn name) : p.fileName = some name := by
  obtain ⟨proper, front, dots, split, edge, idle⟩ := ends
  have whole : ∀ piece ∈ dots, slash ∉ piece := by
    intro piece member
    rcases idle piece member with rfl | rfl <;> decide
  have none : dots.filter (fun part => part ≠ [] ∧ part ≠ [dot]) = [] := by
    refine List.filter_eq_nil_iff.mpr fun piece member => ?_
    rcases idle piece member with rfl | rfl <;> simp
  have named : ∃ before, (front ++ name).splitOn slash = before ++ [name] := by
    rcases edge with rfl | last
    · exact ⟨[], List.splitOn_eq_singleton proper.whole⟩
    · obtain ⟨above, rfl⟩ := List.getLast?_eq_some_iff.mp last
      exact ⟨above.splitOn slash, by simpa using splitOn_append_name above proper⟩
  obtain ⟨before, pieces⟩ := named
  refine fileName_eq_some_iff_getLast?.mpr ⟨?_, proper.double⟩
  rw [parts, split, Text.splitOn_append_flatMap _ whole, pieces, List.filter_append, none,
    List.filter_append]
  simp [proper.named, proper.single]

theorem endsIn_of_fileName (named : p.fileName = some name) : p.EndsIn name := by
  obtain ⟨last, double⟩ := fileName_eq_some_iff_getLast?.mp named
  obtain ⟨others, parts⟩ := List.getLast?_eq_some_iff.mp last
  -- The last part that counts stands in front of those that do not.
  obtain ⟨inner, outer, pieces, -, kept⟩ := List.filter_eq_append_iff.mp parts
  obtain ⟨above, dots, rfl, -, counts, idle⟩ := List.filter_eq_cons_iff.mp kept
  have counts : name ≠ [] ∧ name ≠ [dot] := by simpa using counts
  have member : name ∈ p.bytes.splitOn slash := by simp [pieces]
  have bytes : [slash].intercalate (p.bytes.splitOn slash) = p.bytes :=
    List.intercalate_splitOn slash
  rw [pieces] at bytes
  have passed : ∀ piece ∈ dots, piece = [] ∨ piece = [dot] := by
    intro piece member
    simpa [or_iff_not_imp_left] using List.filter_eq_nil_iff.mp idle piece member
  refine ⟨⟨Text.not_mem_of_mem_splitOn member, counts.1, counts.2, double⟩, ?_⟩
  rw [← List.append_assoc] at bytes
  cases before : inner ++ above with
  | nil =>
    rw [before, List.nil_append, Text.intercalate_cons] at bytes
    exact ⟨[], dots, by simp [bytes], .inl rfl, passed⟩
  | cons first rest =>
    rw [before, List.cons_append, Text.intercalate_cons] at bytes
    exact ⟨first ++ rest.flatMap (slash :: ·) ++ [slash], dots, by simp [← bytes], .inr (by simp),
      passed⟩

theorem fileName_eq_some_iff : p.fileName = some name ↔ p.EndsIn name :=
  ⟨endsIn_of_fileName, fileName_of_endsIn⟩

theorem extensionOf_eq_some_iff : extensionOf name = some extension ↔
    ∃ base, name = base ++ dot :: extension ∧ base ≠ [] ∧ dot ∉ extension := by
  constructor
  · intro found
    by_cases dotted : dot ∈ name
    · obtain ⟨base, back, rfl, last⟩ := Text.exists_last_of_mem dotted
      simp only [extensionOf, Text.behind_last base last] at found
      split at found
      · rename_i long
        cases found
        refine ⟨base, rfl, ?_, last⟩
        rintro rfl
        simp at long
      · cases found
    · have behind : name.reverse.takeWhile (· ≠ dot) = name.reverse :=
        List.takeWhile_eq_self_iff.mpr (Text.passes_of_not_mem (mt List.mem_reverse.mp dotted))
      simp only [extensionOf, behind, List.reverse_reverse] at found
      rw [if_neg (by omega)] at found
      cases found
  · rintro ⟨base, rfl, given, last⟩
    exact extensionOf_append given last

theorem extensionOf_encode_iff {text : String} {extension : Name} :
    extensionOf (encode text) = some extension ↔ ∃ base ending, text = base ++ "." ++ ending ∧
      base ≠ "" ∧ '.' ∉ ending.toList ∧ extension = encode ending := by
  have encoded {s : String} : s ≠ "" ↔ encode s ≠ [] :=
    not_congr ⟨fun none => none ▸ rfl, fun none => encode_injective none⟩
  rw [extensionOf_eq_some_iff]
  constructor
  · rintro ⟨front, split, given, last⟩
    have dotted : '.' ∈ text.toList := by
      rw [← dot_mem_encode_iff, split]
      simp
    obtain ⟨base, ending, chars, bare⟩ := Text.exists_last_of_mem dotted
    have parted : text = String.ofList base ++ "." ++ String.ofList ending := by
      rw [← String.toList_inj, chars]
      simp
    have bare : '.' ∉ (String.ofList ending).toList := by rwa [String.toList_ofList]
    rw [parted, encode_dotted] at split
    -- Both are what stands behind the last dot of the same bytes.
    have same : extension = encode (String.ofList ending) := by
      rw [← Text.behind_last front last, ← split,
        Text.behind_last _ (mt dot_mem_encode_iff.mp bare)]
    have before : encode (String.ofList base) = front := by
      rw [same] at split
      exact List.append_cancel_right split
    exact ⟨_, _, parted, encoded.mpr (before ▸ given), bare, same⟩
  · rintro ⟨base, ending, rfl, given, bare, rfl⟩
    exact ⟨encode base, encode_dotted base ending, encoded.mp given,
      mt dot_mem_encode_iff.mp bare⟩

end Path

end TestImpact.Files
