import Mathlib.Data.List.Forall2
import TestImpact.Proofs.Text.Utf8
import TestImpact.Proofs.Web.Percent
import TestImpact.Web.Url.Basic

namespace TestImpact.Web.Url

/-- A text that a path can take up as it is: it is no step in the path, and nothing of it is
    dropped. -/
structure Faithful (text : String) : Prop where
  dot : text ≠ "."
  dots : text ≠ ".."
  kept : ∀ c ∈ text.toList, isDropped c = false

instance (text : String) : Decidable (Faithful text) :=
  decidable_of_iff (text ≠ "." ∧ text ≠ ".." ∧ text.toList.all (!isDropped ·) = true)
    ⟨fun ⟨dot, dots, kept⟩ => ⟨dot, dots, by simpa using kept⟩,
      fun ⟨dot, dots, kept⟩ => ⟨dot, dots, by simpa using kept⟩⟩

/-- One segment of a written path, which is read back as the text. -/
structure Spells (segment text : String) : Prop where
  whole : ∀ c ∈ segment.toList, c ≠ '/' ∧ c ≠ '?' ∧ c ≠ '#'
  decodes : Percent.decode segment.toList = Text.Utf8.encode text

/-- The segments of a path, less an empty one at its end. -/
def stem (path : List String) : List String :=
  if path.getLast? = some "" then path.dropLast else path

/-- The path goes on where that of the base ends, with one segment for each text. -/
def Behind (base texts path : List String) : Prop :=
  ∃ segments, path = stem base ++ segments ∧ List.Forall₂ Spells segments texts

def spelled (u : Url) (text : String) : String :=
  String.ofList (Percent.encode u.segmentSet text.toList)

theorem spells_spelled (u : Url) (text : String) : Spells (u.spelled text) text := by
  have member {c : Char} (escaped : c ∈ Percent.segment) : c ∈ u.segmentSet := by
    unfold segmentSet
    split
    · exact List.mem_cons_of_mem _ escaped
    · exact escaped
  have absent {c : Char} (escaped : c ∈ Percent.segment) (sign : c.isAlphanum = false)
      (other : c ≠ '%') : c ∉ Percent.encode u.segmentSet text.toList :=
    Percent.not_mem_encode (member escaped) sign other _
  constructor
  · intro c within
    rw [spelled, String.toList_ofList] at within
    refine ⟨?_, ?_, ?_⟩
    · rintro rfl
      exact absent (by decide) (by decide) (by decide) within
    · rintro rfl
      exact absent (by decide) (by decide) (by decide) within
    · rintro rfl
      exact absent (by decide) (by decide) (by decide) within
  · rw [spelled, String.toList_ofList, Percent.decode_encode (member (by decide)),
      Text.Utf8.encode_eq_flatMap]

theorem spelled_ne_empty (u : Url) {text : String} (filled : text ≠ "") : u.spelled text ≠ "" := by
  intro none
  have decoded := (u.spells_spelled text).decodes
  rw [none] at decoded
  exact filled (Text.Utf8.encode_injective decoded.symm)

theorem Spells.unique {segment text text' : String} (first : Spells segment text)
    (second : Spells segment text') : text = text' :=
  Text.Utf8.encode_injective (first.decodes.symm.trans second.decodes)

theorem not_spells_empty {text : String} (filled : text ≠ "") : ¬ Spells "" text :=
  fun spells => filled (Text.Utf8.encode_injective spells.decodes.symm)

def root (path : List String) : List String := if path = [""] then [] else path

theorem appendSegment_eq (path : List String) (s : String) :
    appendSegment path s = root path ++ [s] := by
  unfold appendSegment root
  split <;> rfl

theorem root_of_ne {path : List String} (other : path ≠ [""]) : root path = path := if_neg other

theorem length_root_le (path : List String) : (root path).length ≤ path.length := by
  unfold root
  split
  · exact Nat.zero_le _
  · exact Nat.le_refl _

theorem eq_root_of_length {path : List String} (same : (root path).length = path.length) :
    root path = path := by
  by_cases lone : path = [""]
  · rw [lone] at same
    cases same
  · exact root_of_ne lone

section Growth

def Grows (before : List String) (good : String → Prop) (after : List String) : Prop :=
  after.length ≤ before.length + 1 ∧
    (after.length = before.length + 1 → ∃ s, after = before ++ [s] ∧ good s)

theorem Grows.append {before : List String} {good : String → Prop} {s : String} (g : good s) :
    Grows before good (before ++ [s]) :=
  ⟨by simp, fun _ => ⟨s, rfl, g⟩⟩

theorem Grows.stay {before after : List String} {good : String → Prop}
    (short : after.length ≤ before.length) : Grows before good after :=
  ⟨by omega, fun long => by omega⟩

theorem tidyFilePath_cons_of_ne {s : String} (filled : s ≠ "") (rest : List String) :
    tidyFilePath (s :: rest) = s :: rest := by
  simp [tidyFilePath, filled]

theorem tidyFilePath_cons_empty (rest : List String) :
    tidyFilePath ("" :: rest) = tidyFilePath rest := by
  simp [tidyFilePath]

theorem length_tidyFilePath_le (path : List String) :
    (tidyFilePath path).length ≤ max 1 path.length := by
  induction path with
  | nil => exact Nat.le_max_left _ _
  | cons s rest ih =>
    by_cases empty : s = ""
    · subst empty
      rw [tidyFilePath_cons_empty, List.length_cons]
      omega
    · rw [tidyFilePath_cons_of_ne empty]
      exact Nat.le_max_right _ _

theorem tidyFilePath_of_length {path : List String} (filled : path ≠ [])
    (long : path.length ≤ (tidyFilePath path).length) : tidyFilePath path = path := by
  obtain ⟨s, rest, rfl⟩ := List.exists_cons_of_ne_nil filled
  by_cases empty : s = ""
  · subst empty
    have short := length_tidyFilePath_le rest
    rw [tidyFilePath_cons_empty, List.length_cons] at long
    obtain rfl : rest = [] := List.length_eq_zero_iff.mp (by omega)
    rfl
  · exact tidyFilePath_cons_of_ne empty rest

theorem Grows.tidy {before after : List String} {good : String → Prop} (filled : after ≠ [])
    (grows : Grows before good after) : Grows before good (tidyFilePath after) := by
  have short := length_tidyFilePath_le after
  have one : 1 ≤ after.length := List.length_pos_of_ne_nil filled
  refine ⟨by have := grows.1; omega, fun long => ?_⟩
  have same : tidyFilePath after = after :=
    tidyFilePath_of_length filled (by have := grows.1; omega)
  rw [same] at long ⊢
  exact grows.2 long

theorem stepBack_grows (path : List String) (good : String → Prop) (g : good "") :
    Grows (root path) good (stepBack path ++ [""]) := by
  unfold stepBack
  split
  · rename_i drive
    have other : path ≠ [""] := by
      rintro rfl
      revert drive
      decide
    rw [root_of_ne other]
    exact .append g
  · by_cases lone : path = [""]
    · subst lone
      exact .append g
    · rw [root_of_ne lone]
      rcases path.eq_nil_or_concat with rfl | ⟨front, last, rfl⟩
      · exact .append g
      · exact .stay (by simp)

theorem faithful_of_spells {u : Url} {text : String} (dots : ¬ (text = "." ∨ text = ".."))
    (spells : Spells (String.ofList
      (Percent.encode u.segmentSet (text.toList.filter (!isDropped ·)))) text) : Faithful text where
  dot := fun same => dots (.inl same)
  dots := fun same => dots (.inr same)
  kept := by
    let kept := String.ofList (text.toList.filter (!isDropped ·))
    have read : Spells (u.spelled kept) text := by
      simpa only [spelled, kept, String.toList_ofList] using spells
    have same : text.toList.filter (!isDropped ·) = text.toList := by
      have whole := congrArg String.toList ((u.spells_spelled kept).unique read)
      rwa [String.toList_ofList] at whole
    intro c member
    have passed := List.filter_eq_self.mp same c member
    simpa using passed

theorem addSegment_grows (u : Url) (text : String) :
    Grows (root u.path) (fun s => Spells s text → Faithful text) (u.addSegment text).path := by
  unfold addSegment
  split
  · rename_i dots
    have lost : Spells "" text → Faithful text := by
      have filled : text ≠ "" := by rcases dots with rfl | rfl <;> decide
      exact fun spells => absurd spells (not_spells_empty filled)
    by_cases lone : u.path = [""]
    · rw [lone]
      exact .append lost
    · rw [root_of_ne lone]
      exact .stay (Nat.le_refl _)
  · rename_i dots
    let kept := text.toList.filter (!isDropped ·)
    have lost (filled : kept ≠ []) : Spells "" text → Faithful text := by
      have text_ne : text ≠ "" := by
        rintro rfl
        exact filled rfl
      exact fun spells => absurd spells (not_spells_empty text_ne)
    have untidy : Grows (root u.path) (fun s => Spells s text → Faithful text)
        (if kept = ['.'] then appendSegment u.path ""
          else if kept = ['.', '.'] then stepBack u.path ++ [""]
          else appendSegment u.path (String.ofList (Percent.encode u.segmentSet kept))) := by
      split
      · rename_i dot
        rw [appendSegment_eq]
        exact .append (lost (by simp [dot]))
      · split
        · rename_i dot
          exact stepBack_grows _ _ (lost (by simp [dot]))
        · rw [appendSegment_eq]
          exact .append (faithful_of_spells dots)
    have filled : (if kept = ['.'] then appendSegment u.path ""
          else if kept = ['.', '.'] then stepBack u.path ++ [""]
          else appendSegment u.path (String.ofList (Percent.encode u.segmentSet kept))) ≠ [] := by
      simp only [appendSegment_eq]
      repeat' split
      all_goals simp
    simp only
    split
    · exact untidy.tidy filled
    · exact untidy

end Growth

/-- However the texts are taken up, each makes a path longer by one segment at most; if all of them
    do, none is spelled unless the path can take it up as it is. -/
theorem foldl_grows (u : Url) (text : String) (texts : List String) :
    let path := (texts.foldl addSegment (u.addSegment text)).path
    path.length ≤ (root u.path).length + (texts.length + 1) ∧
      (path.length = (root u.path).length + (texts.length + 1) →
        ∃ segments, path = root u.path ++ segments ∧
          List.Forall₂ (fun s t => Spells s t → Faithful t) segments (text :: texts)) := by
  induction texts generalizing u text with
  | nil =>
    obtain ⟨short, grown⟩ := u.addSegment_grows text
    refine ⟨short, fun long => ?_⟩
    obtain ⟨s, same, good⟩ := grown long
    exact ⟨[s], same, .cons good .nil⟩
  | cons next texts ih =>
    obtain ⟨short, grown⟩ := u.addSegment_grows text
    obtain ⟨short', grown'⟩ := ih (u.addSegment text) next
    have inner := length_root_le (u.addSegment text).path
    simp only [List.foldl_cons, List.length_cons] at short' grown' ⊢
    refine ⟨by omega, fun long => ?_⟩
    have stays : root (u.addSegment text).path = (u.addSegment text).path :=
      eq_root_of_length (by omega)
    obtain ⟨segments, same, good⟩ := grown' (by omega)
    obtain ⟨s, first, good'⟩ := grown (by rw [← stays]; omega)
    exact ⟨s :: segments, by rw [same, stays, first]; simp, .cons good' good⟩

theorem dropFinalSlash_path (u : Url) :
    u.dropFinalSlash.path =
      if 1 < u.path.length ∧ u.path.getLast? = some "" then u.path.dropLast else u.path := by
  unfold dropFinalSlash
  split <;> rfl

theorem root_dropFinalSlash {u : Url} (other : u.path ≠ ["", ""]) :
    root u.dropFinalSlash.path = stem u.path := by
  rw [dropFinalSlash_path]
  generalize u.path = path at other
  unfold stem
  by_cases ends : path.getLast? = some ""
  · have whole : path.dropLast ++ [""] = path := List.dropLast_append_getLast? "" ends
    rw [if_pos ends]
    by_cases long : 1 < path.length
    · rw [if_pos ⟨long, ends⟩]
      refine root_of_ne fun lone => other ?_
      rw [← whole, lone]
      rfl
    · have none : path.dropLast = [] := by
        rw [← List.length_eq_zero_iff, List.length_dropLast]
        omega
      rw [if_neg fun both => long both.1, none]
      rw [none] at whole
      rw [← whole]
      rfl
  · rw [if_neg fun both => ends both.2, if_neg ends]
    refine root_of_ne ?_
    rintro rfl
    exact ends rfl

theorem forall_of_spelled {segments texts : List String}
    (spelled : List.Forall₂ Spells segments texts)
    (good : List.Forall₂ (fun s t => Spells s t → Faithful t) segments texts) :
    ∀ t ∈ texts, Faithful t := by
  induction spelled with
  | nil => nofun
  | cons first _ ih =>
    cases good with
    | cons good rest =>
      intro t member
      rcases List.mem_cons.mp member with rfl | member
      · exact good first
      · exact ih rest t member

theorem faithful_of_behind {u : Url} {text : String} {texts : List String}
    (behind : Behind u.path (text :: texts) (u.extend (text :: texts)).path) :
    u.path ≠ ["", ""] ∧ ∀ t ∈ text :: texts, Faithful t := by
  obtain ⟨segments, same, spelled⟩ := behind
  have count := spelled.length_eq
  obtain ⟨short, grown⟩ := foldl_grows u.dropFinalSlash text texts
  have length : (u.extend (text :: texts)).path.length =
      (stem u.path).length + (texts.length + 1) := by
    rw [same, List.length_append, count, List.length_cons]
  have other : u.path ≠ ["", ""] := by
    intro double
    have base : (stem u.path).length = 1 := by rw [double]; decide
    have front : (root u.dropFinalSlash.path).length = 0 := by
      rw [dropFinalSlash_path, double]
      decide
    simp only [extend, List.foldl_cons] at length
    simp only [length] at short
    omega
  refine ⟨other, ?_⟩
  rw [root_dropFinalSlash other] at grown
  obtain ⟨segments', same', good⟩ := grown length
  have agree : segments = segments' := List.append_cancel_left (same.symm.trans same')
  exact forall_of_spelled spelled (agree ▸ good)

def Tidy (u : Url) : Prop := u.kind = .file → (root u.path).head? ≠ some ""

theorem tidyFilePath_of_head {path : List String} (filled : path ≠ [])
    (tidy : path.head? ≠ some "") : tidyFilePath path = path := by
  obtain ⟨s, rest, rfl⟩ := List.exists_cons_of_ne_nil filled
  exact tidyFilePath_cons_of_ne (fun empty => tidy (congrArg some empty)) rest

theorem addSegment_faithful {u : Url} {text : String} (faithful : Faithful text) :
    u.addSegment text =
      { u with path :=
          if u.kind = .file then tidyFilePath (root u.path ++ [u.spelled text])
          else root u.path ++ [u.spelled text] } := by
  have kept : text.toList.filter (!isDropped ·) = text.toList :=
    List.filter_eq_self.mpr fun c member => by simp [faithful.kept c member]
  have dot : text.toList ≠ ['.'] := fun same => faithful.dot (String.toList_inj.mp same)
  have dots : text.toList ≠ ['.', '.'] := fun same => faithful.dots (String.toList_inj.mp same)
  have plain : ¬ (text = "." ∨ text = "..") := not_or.mpr ⟨faithful.dot, faithful.dots⟩
  unfold addSegment
  rw [if_neg plain]
  simp only [kept, if_neg dot, if_neg dots, appendSegment_eq]
  rfl

theorem addSegment_path {u : Url} (tidy : u.Tidy) {text : String} (faithful : Faithful text)
    (filled : root u.path ≠ [] ∨ text ≠ "") :
    (u.addSegment text).path = root u.path ++ [u.spelled text] ∧ (u.addSegment text).Tidy ∧
      root (u.addSegment text).path = (u.addSegment text).path := by
  have head : u.kind = .file → (root u.path ++ [u.spelled text]).head? ≠ some "" := by
    intro file
    rcases stays : root u.path with _ | ⟨s, rest⟩
    · have text_ne : text ≠ "" := filled.resolve_left (not_not.mpr stays)
      simpa using u.spelled_ne_empty text_ne
    · simpa [stays] using tidy file
  have path : (u.addSegment text).path = root u.path ++ [u.spelled text] := by
    rw [addSegment_faithful faithful]
    by_cases file : u.kind = .file
    · simp only [if_pos file]
      exact tidyFilePath_of_head (by simp) (head file)
    · simp only [if_neg file]
  have ne : root u.path ++ [u.spelled text] ≠ [""] := by
    rcases stays : root u.path with _ | ⟨s, rest⟩
    · have text_ne : text ≠ "" := filled.resolve_left (not_not.mpr stays)
      simpa using u.spelled_ne_empty text_ne
    · simp
  have rooted : root (u.addSegment text).path = (u.addSegment text).path := by
    rw [path]
    exact root_of_ne ne
  refine ⟨path, fun file => ?_, rooted⟩
  rw [rooted, path]
  rw [addSegment_faithful faithful] at file
  exact head file

theorem foldl_faithful {u : Url} (tidy : u.Tidy) (rooted : root u.path = u.path)
    (filled : u.path ≠ []) {texts : List String} (faithful : ∀ t ∈ texts, Faithful t) :
    (texts.foldl addSegment u).path = u.path ++ texts.map u.spelled := by
  induction texts generalizing u with
  | nil => simp
  | cons text texts ih =>
    have now := faithful text List.mem_cons_self
    obtain ⟨path, tidy', rooted'⟩ := addSegment_path tidy now (.inl (rooted.symm ▸ filled))
    have same : (u.addSegment text).spelled = u.spelled := by
      rw [addSegment_faithful now]
      rfl
    rw [List.foldl_cons, ih tidy' rooted' (by rw [path]; simp)
      fun t member => faithful t (List.mem_cons_of_mem _ member), same, path, rooted]
    simp

theorem Tidy.dropFinalSlash {u : Url} (tidy : u.Tidy) : u.dropFinalSlash.Tidy := by
  intro file
  have kind : u.kind = .file := by
    unfold Url.dropFinalSlash at file
    split at file <;> exact file
  have head := tidy kind
  rw [dropFinalSlash_path]
  split
  · rename_i both
    have other : u.path ≠ [""] := by
      intro lone
      simp [lone] at both
    rw [root_of_ne other] at head
    rcases shape : u.path with _ | ⟨s, _ | ⟨s', rest⟩⟩
    · simp [root]
    · simp [shape] at both
    · have ne : s :: (s' :: rest).dropLast ≠ [""] := by
        rintro same
        simp only [List.cons.injEq] at same
        simp [shape, same.1] at head
      rw [List.dropLast_cons_cons, root_of_ne ne]
      simpa [shape] using head
  · exact head

theorem extend_path {u : Url} (tidy : u.Tidy) {text : String} (filled : text ≠ "")
    {texts : List String} (faithful : ∀ t ∈ text :: texts, Faithful t) :
    (u.extend (text :: texts)).path =
      root u.dropFinalSlash.path ++ (text :: texts).map u.spelled := by
  have first := faithful text List.mem_cons_self
  obtain ⟨path, tidy', rooted⟩ := addSegment_path tidy.dropFinalSlash first (.inr filled)
  have same : (u.dropFinalSlash.addSegment text).spelled = u.dropFinalSlash.spelled := by
    rw [addSegment_faithful first]
    rfl
  have same' : u.dropFinalSlash.spelled = u.spelled := by
    unfold Url.dropFinalSlash
    split <;> rfl
  rw [extend, List.foldl_cons, foldl_faithful tidy' rooted (by rw [path]; simp)
    fun t member => faithful t (List.mem_cons_of_mem _ member), same, same', path, same']
  simp

theorem spelled_all (u : Url) (texts : List String) :
    List.Forall₂ Spells (texts.map u.spelled) texts := by
  induction texts with
  | nil => exact .nil
  | cons text texts ih => exact .cons (u.spells_spelled text) ih

/-- A URL is extended by one segment for each text if the path can take up all of them as they are,
    and the base's path is not one of two empty segments. -/
theorem behind_extend_iff {u : Url} (tidy : u.Tidy) {text : String} (filled : text ≠ "")
    (texts : List String) :
    Behind u.path (text :: texts) (u.extend (text :: texts)).path ↔
      u.path ≠ ["", ""] ∧ ∀ t ∈ text :: texts, Faithful t := by
  constructor
  · exact faithful_of_behind
  · rintro ⟨other, faithful⟩
    refine ⟨(text :: texts).map u.spelled, ?_, u.spelled_all _⟩
    rw [extend_path tidy filled faithful, root_dropFinalSlash other]

end TestImpact.Web.Url
