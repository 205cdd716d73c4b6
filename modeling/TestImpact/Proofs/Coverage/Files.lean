import Mathlib
import TestImpact.Proofs.Coverage.Lines
import TestImpact.Proofs.Text.Order
import TestImpact.Proofs.Text.Pieces
import TestImpact.Run.Execution

namespace TestImpact.Coverage

open Text.Utf8

section Order

variable {files : LinesByFile}

theorem mem_coveredFiles_iff {f : String × List UInt32} :
    f ∈ coveredFiles files ↔ f ∈ files.entries ∧ f.2 ≠ [] := by
  simp [coveredFiles, List.mem_filter]

theorem ascending_coveredFiles (files : LinesByFile) :
    (coveredFiles files).Pairwise fun f g => encode f.1 < encode g.1 := by
  have sorted : (coveredFiles files).Pairwise fun f g => decide (f.1 ≤ g.1) = true :=
    List.pairwise_mergeSort (fun f g h => by simpa using String.le_trans)
      (fun f g => by simpa using String.le_total f.1 g.1) _
  have distinct : (coveredFiles files).Pairwise fun f g => f.1 ≠ g.1 := by
    have perm : (coveredFiles files).Perm _ := List.mergeSort_perm ..
    refine (perm.pairwise_iff fun apart => apart.symm).mpr ?_
    exact List.pairwise_map.mp (files.distinct.sublist (List.filter_sublist.map _))
  refine (sorted.and distinct).imp fun {f g} both => ?_
  have order : f.1 ≤ g.1 := by simpa using both.1
  exact encode_lt (lt_of_le_of_ne order both.2)

end Order

section Decoding

theorem dropReturn_subset (line : List Char) : dropReturn line ⊆ line := by
  unfold dropReturn
  split
  · exact List.dropLast_subset line
  · exact List.Subset.refl line

theorem not_mem_of_mem_textLines {cs line : List Char} (member : line ∈ textLines cs) :
    '\n' ∉ line := by
  rcases List.mem_append.mp member with inner | last
  · obtain ⟨piece, within, rfl⟩ := List.mem_map.mp inner
    exact fun inside => Text.not_mem_of_mem_splitOn (List.dropLast_subset _ within)
      (dropReturn_subset piece inside)
  · have within := List.mem_of_getLast? (Option.mem_toList.mp (List.mem_filter.mp last).1)
    exact Text.not_mem_of_mem_splitOn within

theorem path_subset {line : List Char} {file : String × String}
    (split : splitLastColon line = some file) : file.1.toList ⊆ line := by
  unfold splitLastColon at split
  split at split
  · cases split
    rw [String.toList_ofList]
    exact List.take_subset _ line
  · cases split

theorem not_mem_of_mem_filesOf {text : String} {file : String × String}
    (member : file ∈ filesOf text) : '\n' ∉ file.1.toList := by
  obtain ⟨line, within, split⟩ := List.mem_filterMap.mp member
  exact fun inside => not_mem_of_mem_textLines within (path_subset split inside)

theorem splitLastColon_append (path : List Char) {ranges : List Char} (bare : ':' ∉ ranges) :
    splitLastColon (path ++ ':' :: ranges) = some (String.ofList path, String.ofList ranges) := by
  have front : (path ++ ':' :: ranges).length - ranges.length - 1 = path.length := by
    rw [List.length_append, List.length_cons]
    omega
  unfold splitLastColon
  rw [if_pos (by simp)]
  dsimp only
  rw [Text.behind_last path bare, front, List.take_left]

theorem textLines_intercalate {lines : List (List Char)} (whole : ∀ line ∈ lines, '\n' ∉ line)
    (given : ∀ line ∈ lines, line ≠ []) (bare : ∀ line ∈ lines, line.getLast? ≠ some '\r') :
    textLines (['\n'].intercalate lines) = lines := by
  rcases List.eq_nil_or_concat' lines with rfl | ⟨front, last, rfl⟩
  · rfl
  · have pieces := List.splitOn_intercalate '\n' whole (by simp)
    have kept : front.map dropReturn = front := by
      refine (List.map_congr_left fun line member => ?_).trans (List.map_id front)
      exact if_neg (bare line (by simp [member]))
    rw [textLines, pieces]
    simp [kept, given last]

theorem toList_fileText (file : String × List UInt32) :
    (fileText file).toList = file.1.toList ++ ':' :: (linesText file.2).toList := by
  simp [fileText]

theorem not_mem_linesText {c : Char} (sign : c.isDigit = false ∧ c ≠ '-' ∧ c ≠ ',')
    (lines : List UInt32) : c ∉ (linesText lines).toList := by
  intro member
  rcases mark_of_mem_linesText member with digit | hyphen | comma
  · exact absurd digit (by simp [sign.1])
  · exact sign.2.1 hyphen
  · exact sign.2.2 comma

theorem splitLastColon_fileText (file : String × List UInt32) :
    splitLastColon (fileText file).toList = some (file.1, linesText file.2) := by
  rw [toList_fileText, splitLastColon_append _ (not_mem_linesText (by decide) _),
    String.ofList_toList, String.ofList_toList]

theorem getLast?_fileText (file : String × List UInt32) :
    (fileText file).toList.getLast? ≠ some '\r' := by
  intro last
  rw [toList_fileText, List.getLast?_append_of_ne_nil _ (by simp)] at last
  rcases List.mem_cons.mp (List.mem_of_getLast? last) with colon | inside
  · cases colon
  · exact not_mem_linesText (by decide) _ inside

theorem filesOf_text {files : LinesByFile}
    (whole : ∀ f ∈ coveredFiles files, '\n' ∉ f.1.toList) :
    filesOf (text files) = (coveredFiles files).map fun f => (f.1, linesText f.2) := by
  have lines : (text files).toList =
      ['\n'].intercalate ((coveredFiles files).map fun f => (fileText f).toList) := by
    rw [text, String.toList_intercalate, List.map_map]
    rfl
  rw [filesOf, lines, textLines_intercalate, List.filterMap_map]
  · rw [← List.filterMap_eq_map]
    exact List.filterMap_congr fun f _ => splitLastColon_fileText f
  · intro line member inside
    obtain ⟨f, within, rfl⟩ := List.mem_map.mp member
    rw [toList_fileText, List.mem_append] at inside
    rcases inside with path | behind
    · exact whole f within path
    · rcases List.mem_cons.mp behind with colon | ranges
      · cases colon
      · exact not_mem_linesText (by decide) _ ranges
  · intro line member
    obtain ⟨f, -, rfl⟩ := List.mem_map.mp member
    simp [toList_fileText]
  · intro line member
    obtain ⟨f, -, rfl⟩ := List.mem_map.mp member
    exact getLast?_fileText f

end Decoding

/-- The files that a coverage text was made of are found in it, with their lines as ranges and in
    the order of their paths' bytes, if no path among them runs over a line end, and only then. -/
theorem files_read_back (files : LinesByFile) (a : Attribution) :
    (({ a with coverage := text files } : Attribution).files =
        (coveredFiles files).map (fun f => (f.1, linesText f.2)) ↔
      ∀ f ∈ coveredFiles files, '\n' ∉ f.1.toList) ∧
    (∀ f, f ∈ coveredFiles files ↔ f ∈ files.entries ∧ f.2 ≠ []) ∧
    (coveredFiles files).Pairwise fun f g => encode f.1 < encode g.1 := by
  refine ⟨⟨fun same f member => ?_, filesOf_text⟩, fun f => mem_coveredFiles_iff,
    ascending_coveredFiles files⟩
  have found : (f.1, linesText f.2) ∈ filesOf (text files) := by
    have read : filesOf (text files) = _ := same
    rw [read]
    exact List.mem_map.mpr ⟨f, member, rfl⟩
  exact not_mem_of_mem_filesOf found

example : filesOf (text { entries := [("b:\r ", [4, 5]), ("", [7]), ("c", [])] }) =
    [("", "7"), ("b:\r ", "4-5")] := by cbv

example : filesOf (text { entries := [("a\nb", [1])] }) = [("b", "1")] := by cbv

end TestImpact.Coverage
