import Mathlib.Data.List.Infix
import TestImpact.Proofs.Text.Utf8
import TestImpact.Web.Message
import TestImpact.Web.Multipart

namespace TestImpact.Web.Form

open Multipart (Part escapeQuoted)
open Text.Utf8

structure Qualified where
  value : String
  parameters : List (String × String) := []
  deriving DecidableEq, Repr

structure Section where
  fields : List (String × Qualified)
  content : List UInt8
  deriving DecidableEq, Repr

structure Document where
  preamble : List UInt8 := []
  sections : List Section
  epilogue : List UInt8 := []
  deriving DecidableEq, Repr

def readQuoted : List Char → Option (List Char × List Char)
  | [] => none
  | '"' :: rest => some ([], rest)
  | '\\' :: c :: rest => (readQuoted rest).map fun read => (c :: read.1, read.2)
  | c :: rest => (readQuoted rest).map fun read => (c :: read.1, read.2)

def readWord : List Char → Option (List Char × List Char)
  | '"' :: rest => readQuoted rest
  | text => some (text.takeWhile (· ≠ ';'), text.dropWhile (· ≠ ';'))

theorem length_readQuoted {text : List Char} {read : List Char × List Char}
    (found : readQuoted text = some read) : read.2.length ≤ text.length := by
  fun_induction readQuoted text generalizing read with
  | case1 => cases found
  | case2 rest =>
    cases found
    simp
  | case3 c rest ih =>
    obtain ⟨inner, more, rfl⟩ := Option.map_eq_some_iff.mp found
    have := ih more
    simp only [List.length_cons]
    omega
  | case4 c rest _ _ ih =>
    obtain ⟨inner, more, rfl⟩ := Option.map_eq_some_iff.mp found
    have := ih more
    simp only [List.length_cons]
    omega

theorem length_readWord {text : List Char} {read : List Char × List Char}
    (found : readWord text = some read) : read.2.length ≤ text.length := by
  unfold readWord at found
  split at found
  · exact (length_readQuoted found).trans (by simp)
  · cases found
    exact (List.dropWhile_sublist _).length_le

def readParameters (text : List Char) : Option (List (String × String)) :=
  match text with
  | [] => some []
  | ';' :: behind =>
    let named := behind.dropWhile (· = ' ')
    match found : readWord ((named.dropWhile (· ≠ '=')).drop 1) with
    | none => none
    | some read =>
      have := length_readWord found
      (readParameters read.2).map fun more =>
        (String.ofList (named.takeWhile (· ≠ '=')), String.ofList read.1) :: more
  | _ => none
  termination_by text.length
  decreasing_by
    have unspaced : named.length ≤ behind.length := (List.dropWhile_sublist _).length_le
    have unnamed : (named.dropWhile (· ≠ '=')).length ≤ named.length :=
      (List.dropWhile_sublist _).length_le
    simp only [List.length_drop, List.length_cons] at this ⊢
    omega

def readQualified (text : List Char) : Option Qualified :=
  (readParameters (text.dropWhile (· ≠ ';'))).map fun parameters =>
    ⟨String.ofList (text.takeWhile (· ≠ ';')), parameters⟩

def readField (line : String) : Option (String × Qualified) :=
  let behind := (line.toList.dropWhile (· ≠ ':')).drop 1
  (readQualified (behind.dropWhile (· = ' '))).map fun value =>
    (String.ofList (line.toList.takeWhile (· ≠ ':')), value)

def delimiter (boundary : String) : List UInt8 := lineEnd ++ encode ("--" ++ boundary)

theorem delimiter_eq (boundary : String) :
    delimiter boundary = 13 :: 10 :: 45 :: 45 :: encode boundary := by
  rw [delimiter, encode_append]
  rfl

theorem length_stretch {boundary : String} {bytes first rest : List UInt8}
    (found : bytes.dropInfix? (delimiter boundary) = some (first, rest)) :
    rest.length < bytes.length := by
  obtain ⟨⟨mark, rfl, same⟩, -⟩ := List.dropInfix?_eq_some_iff.mp found
  rw [eq_of_beq same, delimiter_eq]
  simp only [List.length_append, List.length_cons]
  omega

def stretches (boundary : String) (bytes : List UInt8) : List (List UInt8) :=
  match found : bytes.dropInfix? (delimiter boundary) with
  | none => [bytes]
  | some (first, rest) =>
    have := length_stretch found
    first :: stretches boundary rest
  termination_by bytes.length

def readSection (stretch : List UInt8) : Option Section := do
  let (head, content) ← (stretch.dropPrefix? lineEnd).bind takeHead
  let fields ← head.mapM readField
  return ⟨fields, content⟩

def readSections : List (List UInt8) → Option (List Section × List UInt8)
  | [] => none
  | [last] => (last.dropPrefix? (line "--")).map fun epilogue => ([], epilogue)
  | stretch :: more => do
    let first ← readSection stretch
    let (rest, epilogue) ← readSections more
    return (first :: rest, epilogue)

def readDocument (boundary : String) (bytes : List UInt8) : Option Document :=
  match stretches boundary (lineEnd ++ bytes) with
  | [] => none
  | before :: more => (readSections more).map fun read =>
    ⟨before.drop lineEnd.length, read.1, read.2⟩

def readForm (mediaType : String) (bytes : List UInt8) : Option Document := do
  let kind ← readQualified mediaType.toList
  if kind.value ≠ "multipart/form-data" then none
  else
    let boundary ← kind.parameters.lookup "boundary"
    readDocument boundary bytes

theorem readQuoted_escapeQuoted (value : String) (rest : List Char) :
    readQuoted ((escapeQuoted value).toList ++ '"' :: rest) = some (value.toList, rest) := by
  rw [escapeQuoted, String.toList_ofList]
  induction value.toList with
  | nil => rfl
  | cons c cs ih =>
    by_cases marked : c = '\\' ∨ c = '"'
    · simp [marked, readQuoted, ih]
    · rw [List.flatMap_cons, if_neg marked, List.append_assoc, List.singleton_append]
      rw [not_or] at marked
      rw [readQuoted, ih]
      · rfl
      · exact marked.2
      · exact fun _ _ same => absurd same marked.1

theorem readParameters_named {name : String} (plain : ∀ c ∈ name.toList, c ≠ '=' ∧ c ≠ ' ')
    {word value rest : List Char} (read : readWord word = some (value, rest)) :
    readParameters (';' :: ' ' :: (name.toList ++ '=' :: word)) =
      (readParameters rest).map fun more => (name, String.ofList value) :: more := by
  have unspaced : (' ' :: (name.toList ++ '=' :: word)).dropWhile (· = ' ') =
      name.toList ++ '=' :: word := by
    cases named : name.toList with
    | nil => rfl
    | cons c cs => simp [(plain c (by simp [named])).2]
  have unnamed : ∀ c ∈ name.toList, (decide (c ≠ '=')) = true := fun c member => by
    simp [(plain c member).1]
  have behind : readWord (((name.toList ++ '=' :: word).dropWhile (· ≠ '=')).drop 1) =
      some (value, rest) := by
    rw [List.dropWhile_append_of_pos unnamed]
    exact read
  rw [readParameters]
  split
  · next found =>
    rw [unspaced, behind] at found
    cases found
  · next read found =>
    rw [unspaced, behind] at found
    cases found
    simp only [unspaced]
    rw [List.takeWhile_append_of_pos unnamed]
    simp

theorem readParameters_quoted {name : String} (plain : ∀ c ∈ name.toList, c ≠ '=' ∧ c ≠ ' ')
    (value : String) (rest : List Char) :
    readParameters (';' :: ' ' :: (name.toList ++ '=' :: '"' ::
        ((escapeQuoted value).toList ++ '"' :: rest))) =
      (readParameters rest).map fun more => (name, value) :: more := by
  have read : readWord ('"' :: ((escapeQuoted value).toList ++ '"' :: rest)) =
      some (value.toList, rest) := readQuoted_escapeQuoted value rest
  rw [readParameters_named plain read, String.ofList_toList]

theorem infix_around {α : Type} {mark x y : List α} {c : α} (other : c ∉ mark)
    (found : mark <:+: x ++ c :: y) : mark <:+: x ∨ mark <:+: y := by
  rcases List.infix_append_iff.mp found with left | right | ⟨front, back, rfl, ends, begins⟩
  · exact .inl left
  · rcases List.infix_cons_iff.mp right with begins | right
    · cases mark with
      | nil => exact .inl List.nil_infix
      | cons b mark =>
        rw [List.cons_prefix_cons] at begins
        exact absurd (by simp [begins.1]) other
    · exact .inr right
  · cases back with
    | nil =>
      rw [List.append_nil]
      exact .inl ends.isInfix
    | cons b back =>
      rw [List.cons_prefix_cons] at begins
      exact absurd (by simp [begins.1]) other

theorem infix_around_lineEnd {mark x y : List UInt8} (whole : 13 ∉ mark ∧ 10 ∉ mark)
    (found : mark <:+: x ++ lineEnd ++ y) : mark <:+: x ∨ mark <:+: y := by
  rw [List.append_assoc] at found
  refine (infix_around whole.1 found).imp_right fun behind => ?_
  exact (infix_around (x := []) whole.2 behind).elim
    (fun empty => empty.trans List.nil_infix) fun right => right

theorem infix_of_delimiter {boundary : String} {bytes : List UInt8}
    (found : delimiter boundary <:+: bytes) : encode boundary <:+: bytes := by
  rw [delimiter_eq] at found
  exact (List.suffix_append [13, 10, 45, 45] (encode boundary)).isInfix.trans found

/-- Since a delimiter has no line end but at its start, none begins before the first stretch
    ends. -/
theorem dropInfix?_delimiter {boundary : String} (whole : 13 ∉ encode boundary)
    {first : List UInt8} (absent : ¬ encode boundary <:+: first) (rest : List UInt8) :
    (first ++ delimiter boundary ++ rest).dropInfix? (delimiter boundary) = some (first, rest) := by
  rw [List.dropInfix?_eq_some_iff]
  refine ⟨⟨delimiter boundary, rfl, beq_self_eq_true _⟩, fun before mark behind split same => ?_⟩
  rw [eq_of_beq same, List.append_assoc, List.append_assoc] at split
  rcases List.append_eq_append_iff.mp split with ⟨more, early, -⟩ | ⟨more, late, overlap⟩
  · simp [early]
  cases more with
  | nil => simp [late]
  | cons c more =>
    exfalso
    rcases List.append_eq_append_iff.mp overlap with ⟨tail, inside, -⟩ | ⟨tail, across, again⟩
    · exact absent (infix_of_delimiter ⟨before, tail, by rw [late, inside, List.append_assoc]⟩)
    · cases tail with
      | nil =>
        rw [List.append_nil] at across
        exact absent (infix_of_delimiter ⟨before, [], by rw [late, across, List.append_nil]⟩)
      | cons d tail =>
        rw [delimiter_eq] at across again
        injection across with _ across
        injection again with again
        have second : (13 : UInt8) ∈ 10 :: 45 :: 45 :: encode boundary := by
          rw [across, again]
          simp
        simp [whole] at second

theorem stretches_append {boundary : String} (whole : 13 ∉ encode boundary)
    {first : List UInt8} (absent : ¬ encode boundary <:+: first) (rest : List UInt8) :
    stretches boundary (first ++ delimiter boundary ++ rest) =
      first :: stretches boundary rest := by
  rw [stretches]
  split
  · next found =>
    rw [dropInfix?_delimiter whole absent] at found
    cases found
  · next before behind found =>
    rw [dropInfix?_delimiter whole absent] at found
    cases found
    rfl

theorem stretches_of_absent {boundary : String} {bytes : List UInt8}
    (absent : ¬ delimiter boundary <:+: bytes) : stretches boundary bytes = [bytes] := by
  rw [stretches]
  split
  · rfl
  · next before behind found =>
    obtain ⟨⟨mark, split, same⟩, -⟩ := List.dropInfix?_eq_some_iff.mp found
    exact absurd ⟨before, behind, by rw [split, eq_of_beq same]⟩ absent

def head (p : Part) : List String :=
  ("Content-Disposition: " ++ p.disposition) ::
    p.file.toList.map fun file => "Content-Type: " ++ file.2

def stretch (p : Part) : List UInt8 := lineEnd ++ (head p).flatMap line ++ lineEnd ++ p.content

theorem lineEnd_encode (boundary : String) (p : Part) (more : List UInt8) :
    lineEnd ++ (p.encode boundary ++ more) =
      delimiter boundary ++ (stretch p ++ (lineEnd ++ more)) := by
  rcases p with ⟨name, _ | ⟨fileName, mediaType⟩, content⟩ <;>
    simp [Part.encode, stretch, head, delimiter, line]

structure Readable (boundary : String) (p : Part) : Prop where
  unbroken : ∀ l ∈ head p, 13 ∉ encode l
  unmarked : ∀ l ∈ head p, ¬ encode boundary <:+: encode l
  absent : ¬ encode boundary <:+: p.content
  bare : ∀ file ∈ p.file, ';' ∉ file.2.toList ∧ file.2.toList.head? ≠ some ' '

theorem absent_lines {boundary : String} (whole : 13 ∉ encode boundary ∧ 10 ∉ encode boundary)
    {lines : List String} (absent : ∀ l ∈ lines, ¬ encode boundary <:+: encode l)
    {rest : List UInt8} (behind : ¬ encode boundary <:+: rest) :
    ¬ encode boundary <:+: lines.flatMap line ++ rest := by
  induction lines with
  | nil => exact behind
  | cons l lines ih =>
    rw [List.flatMap_cons, line, List.append_assoc]
    intro found
    rcases infix_around_lineEnd whole found with first | more
    · exact absent l (by simp) first
    · exact ih (fun l member => absent l (by simp [member])) more

theorem absent_stretch {boundary : String} (whole : 13 ∉ encode boundary ∧ 10 ∉ encode boundary)
    {p : Part} (readable : Readable boundary p) : ¬ encode boundary <:+: stretch p := by
  have behind : ∀ {bytes}, ¬ encode boundary <:+: bytes → ¬ encode boundary <:+: lineEnd ++ bytes :=
    fun absent found => (infix_around_lineEnd (x := []) whole found).elim
      (fun empty => absent (empty.trans List.nil_infix)) absent
  rw [stretch, List.append_assoc, List.append_assoc]
  exact behind (absent_lines whole readable.unmarked (behind readable.absent))

def closing : List UInt8 := line "--"

theorem stretches_closing (boundary : String) : stretches boundary closing = [closing] := by
  refine stretches_of_absent fun found => ?_
  rw [delimiter_eq] at found
  have same := found.eq_of_length_le (Nat.le_add_left 4 (encode boundary).length)
  cases same

theorem stretches_encode {boundary : String} (whole : 13 ∉ encode boundary ∧ 10 ∉ encode boundary)
    {parts : List Part} (readable : ∀ p ∈ parts, Readable boundary p) {first : List UInt8}
    (absent : ¬ encode boundary <:+: first) :
    stretches boundary (first ++ (lineEnd ++ Multipart.encode boundary parts)) =
      first :: (parts.map stretch ++ [closing]) := by
  induction parts generalizing first with
  | nil =>
    have last : lineEnd ++ Multipart.encode boundary [] = delimiter boundary ++ closing := by
      simp [Multipart.encode, delimiter, closing, line, encode_append]
    rw [last, ← List.append_assoc, stretches_append whole.1 absent, stretches_closing]
    rfl
  | cons p parts ih =>
    have next : lineEnd ++ Multipart.encode boundary (p :: parts) =
        delimiter boundary ++ (stretch p ++ (lineEnd ++ Multipart.encode boundary parts)) := by
      rw [Multipart.encode, List.flatMap_cons, List.append_assoc, lineEnd_encode]
      rfl
    rw [next, ← List.append_assoc, stretches_append whole.1 absent,
      ih (fun q member => readable q (by simp [member]))
        (absent_stretch whole (readable p (by simp)))]
    rfl

theorem takeLine_line {first : List UInt8} (whole : 13 ∉ first) (rest : List UInt8) :
    takeLine (first ++ (lineEnd ++ rest)) = some (first, rest) := by
  induction first with
  | nil => rfl
  | cons b first ih =>
    obtain ⟨d, more, start⟩ : ∃ d more, first ++ (lineEnd ++ rest) = d :: more := by
      cases first <;> exact ⟨_, _, rfl⟩
    have other : b ≠ 13 := fun same => whole (by simp [same])
    have next := ih fun member => whole (by simp [member])
    rw [start] at next
    rw [List.cons_append, start, takeLine, if_neg fun both => other both.1, next]
    rfl

theorem takeHead_lines {lines : List String} (whole : ∀ l ∈ lines, l ≠ "" ∧ 13 ∉ encode l)
    (content : List UInt8) :
    takeHead (lines.flatMap line ++ (lineEnd ++ content)) = some (lines, content) := by
  induction lines with
  | nil =>
    rw [takeHead]
    rfl
  | cons l lines ih =>
    obtain ⟨filled, unbroken⟩ := whole l (by simp)
    have first := takeLine_line unbroken (lines.flatMap line ++ (lineEnd ++ content))
    have ends : (l :: lines).flatMap line ++ (lineEnd ++ content) =
        encode l ++ (lineEnd ++ (lines.flatMap line ++ (lineEnd ++ content))) := by
      simp [line]
    rw [takeHead, ends]
    split
    · next found =>
      rw [first] at found
      cases found
    · next rest found =>
      rw [first, Option.some.injEq, Prod.mk.injEq] at found
      exact absurd (encode_injective (t := "") found.1) filled
    · next read rest _ found =>
      rw [first] at found
      cases found
      rw [ih fun l member => whole l (by simp [member]), lossy_encode]
      rfl

theorem readQualified_append {value : String} (plain : ';' ∉ value.toList) {behind : List Char}
    (parted : behind = [] ∨ behind.head? = some ';') :
    readQualified (value.toList ++ behind) = (readParameters behind).map (⟨value, ·⟩) := by
  have passed : ∀ c ∈ value.toList, (decide (c ≠ ';')) = true := fun c member => by
    simpa using fun same : c = ';' => plain (same ▸ member)
  rw [readQualified, List.dropWhile_append_of_pos passed, List.takeWhile_append_of_pos passed]
  rcases behind with _ | ⟨c, behind⟩
  · simp
  · simp_all

theorem readField_append {name value : String} (plain : ':' ∉ name.toList)
    (unspaced : value.toList.head? ≠ some ' ') :
    readField (name ++ ": " ++ value) = (readQualified value.toList).map (name, ·) := by
  have passed : ∀ c ∈ name.toList, (decide (c ≠ ':')) = true := fun c member => by
    simpa using fun same : c = ':' => plain (same ▸ member)
  have chars : (name ++ ": " ++ value).toList = name.toList ++ ':' :: ' ' :: value.toList := by
    simp
  have kept : value.toList.dropWhile (· = ' ') = value.toList := by
    cases spelled : value.toList with
    | nil => rfl
    | cons c cs => simp_all
  rw [readField, chars, List.dropWhile_append_of_pos passed, List.takeWhile_append_of_pos passed]
  simp [kept]

theorem chars_disposition (p : Part) :
    p.disposition.toList = "form-data".toList ++
      (';' :: ' ' :: ("name".toList ++ '=' :: '"' :: ((escapeQuoted p.name).toList ++ '"' ::
        (p.file.toList.flatMap fun file => ';' :: ' ' :: ("filename".toList ++ '=' :: '"' ::
          ((escapeQuoted file.1).toList ++ ['"'])))))) := by
  rcases p with ⟨name, _ | ⟨fileName, mediaType⟩, content⟩ <;> simp [Part.disposition]

def sectionOf (p : Part) : Section where
  fields :=
    ("Content-Disposition",
      ⟨"form-data", ("name", p.name) :: p.file.toList.map fun file => ("filename", file.1)⟩) ::
    p.file.toList.map fun file => ("Content-Type", ⟨file.2, []⟩)
  content := p.content

theorem readField_disposition (p : Part) :
    readField ("Content-Disposition: " ++ p.disposition) =
      some ("Content-Disposition",
        ⟨"form-data", ("name", p.name) :: p.file.toList.map fun file => ("filename", file.1)⟩) := by
  have parted : "Content-Disposition: " = "Content-Disposition" ++ ": " := by decide
  have unspaced : p.disposition.toList.head? ≠ some ' ' := by simp [chars_disposition]
  rw [parted, readField_append (by decide) unspaced, chars_disposition,
    readQualified_append (by decide) (.inr rfl), readParameters_quoted (by simp)]
  cases p.file with
  | none => simp [readParameters]
  | some file =>
    simp only [Option.toList_some, List.flatMap_singleton, List.map_singleton]
    rw [readParameters_quoted (by simp)]
    simp [readParameters]

theorem readField_type {mediaType : String} (plain : ';' ∉ mediaType.toList)
    (unspaced : mediaType.toList.head? ≠ some ' ') :
    readField ("Content-Type: " ++ mediaType) = some ("Content-Type", ⟨mediaType, []⟩) := by
  have parted : "Content-Type: " = "Content-Type" ++ ": " := by decide
  rw [parted, readField_append (by decide) unspaced, ← List.append_nil mediaType.toList,
    readQualified_append plain (.inl rfl)]
  simp [readParameters]

theorem readSection_stretch {boundary : String} {p : Part} (readable : Readable boundary p) :
    readSection (stretch p) = some (sectionOf p) := by
  have whole : ∀ l ∈ head p, l ≠ "" ∧ 13 ∉ encode l := by
    refine fun l member => ⟨?_, readable.unbroken l member⟩
    rintro rfl
    cases file : p.file <;> simp [head, file] at member
  have inner : (stretch p).dropPrefix? lineEnd =
      some ((head p).flatMap line ++ (lineEnd ++ p.content)) := by
    rw [stretch, List.append_assoc, List.append_assoc]
    exact List.dropPrefix?_append_of_beq _ (beq_self_eq_true lineEnd)
  have fields : (head p).mapM readField = some (sectionOf p).fields := by
    unfold head sectionOf
    cases file : p.file with
    | none => simp [readField_disposition, file]
    | some f =>
      obtain ⟨plain, unspaced⟩ := readable.bare f file
      simp [readField_disposition, readField_type plain unspaced, file]
  simp only [readSection, inner, Option.bind_some, takeHead_lines whole, Option.bind_eq_bind,
    fields]
  rfl

theorem readSections_stretches {boundary : String} {parts : List Part}
    (readable : ∀ p ∈ parts, Readable boundary p) :
    readSections (parts.map stretch ++ [closing]) = some (parts.map sectionOf, []) := by
  induction parts with
  | nil => rfl
  | cons p parts ih =>
    have rest := ih fun q member => readable q (by simp [member])
    obtain ⟨next, more, behind⟩ : ∃ next more, parts.map stretch ++ [closing] = next :: more := by
      cases parts <;> exact ⟨_, _, rfl⟩
    rw [behind] at rest
    rw [List.map_cons, List.cons_append, behind, readSections,
      readSection_stretch (readable p (by simp)), rest]
    · rfl
    · simp

/-- The form is read by its boundary as the parts that it was made of, and nothing else is in it. -/
theorem readDocument_encode {boundary : String}
    (whole : 13 ∉ encode boundary ∧ 10 ∉ encode boundary) {parts : List Part}
    (readable : ∀ p ∈ parts, Readable boundary p) (filled : boundary ≠ "") :
    readDocument boundary (Multipart.encode boundary parts) =
      some { sections := parts.map sectionOf } := by
  have absent : ¬ encode boundary <:+: [] := fun found =>
    filled (encode_injective (List.infix_nil.mp found))
  have split := stretches_encode whole readable absent
  rw [List.nil_append] at split
  rw [readDocument, split]
  simp [readSections_stretches readable]

theorem readParameters_word {name word : String} (plain : ∀ c ∈ name.toList, c ≠ '=' ∧ c ≠ ' ')
    (bare : ∀ c ∈ word.toList, c ≠ ';' ∧ c ≠ '"') :
    readParameters (';' :: ' ' :: (name.toList ++ '=' :: word.toList)) = some [(name, word)] := by
  have read : readWord word.toList = some (word.toList, []) := by
    have passed : ∀ c ∈ word.toList, (decide (c ≠ ';')) = true := fun c member => by
      simp [(bare c member).1]
    unfold readWord
    split
    · next rest spelled => exact absurd rfl (bare '"' (by simp [spelled])).2
    · rw [← List.append_nil word.toList, List.takeWhile_append_of_pos passed,
        List.dropWhile_append_of_pos passed]
      rfl
  have alone : readParameters [] = some [] := by rw [readParameters]
  rw [readParameters_named plain read, alone]
  simp

theorem readQualified_mediaType {boundary : String}
    (bare : ∀ c ∈ boundary.toList, c ≠ ';' ∧ c ≠ '"') :
    readQualified (Multipart.mediaType boundary).toList =
      some ⟨"multipart/form-data", [("boundary", boundary)]⟩ := by
  have parted : "multipart/form-data; boundary=".toList =
      "multipart/form-data".toList ++ (';' :: ' ' :: ("boundary".toList ++ ['='])) := by simp
  have chars := congrArg (· ++ boundary.toList) parted
  simp only [List.append_assoc, List.cons_append, List.nil_append] at chars
  unfold Multipart.mediaType
  rw [String.toList_append, chars, readQualified_append (by simp) (.inr rfl),
    readParameters_word (by simp) bare]
  rfl

theorem readForm_encode {boundary : String} (bare : ∀ c ∈ boundary.toList, c ≠ ';' ∧ c ≠ '"')
    (whole : 13 ∉ encode boundary ∧ 10 ∉ encode boundary) {parts : List Part}
    (readable : ∀ p ∈ parts, Readable boundary p) (filled : boundary ≠ "") :
    readForm (Multipart.mediaType boundary) (Multipart.encode boundary parts) =
      some { sections := parts.map sectionOf } := by
  simp [readForm, readQualified_mediaType bare, readDocument_encode whole readable filled]

end TestImpact.Web.Form
