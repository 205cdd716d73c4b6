import Mathlib
import TestImpact.Proofs.Delivery.Upload
import TestImpact.Proofs.Web.Forms

namespace TestImpact

open Text.Utf8
open Web.Form (Section Qualified Readable head readForm sectionOf)
open Web.Multipart (Part)

def Web.Form.Section.text (name value : String) : Section :=
  ⟨[("Content-Disposition", ⟨"form-data", [("name", name)]⟩)], encode value⟩

namespace UploadTarget

variable {t : UploadTarget} {token report : String}

section Boundary

variable (plain : ∀ c ∈ token.toList, c.isAlphanum)

include plain

theorem char_of_boundaryOf {c : Char} (member : c ∈ (boundaryOf token).toList) :
    c.isAlphanum ∨ c = '-' := by
  rw [boundaryOf, String.toList_append, List.mem_append] at member
  rcases member with fixed | own
  · have all : ∀ c ∈ "tia-relay-".toList, c.isAlphanum ∨ c = '-' := by simp
    exact all c fixed
  · exact .inl (plain c own)

theorem ascii_boundaryOf {c : Char} (member : c ∈ (boundaryOf token).toList) : c.val ≤ 127 := by
  rcases char_of_boundaryOf plain member with word | rfl
  · have high := (range_of_isAlphanum word).2
    exact UInt32.le_iff_toNat_le.mpr (Nat.le_trans high (by decide))
  · decide

theorem bare_boundaryOf {c : Char} (member : c ∈ (boundaryOf token).toList) :
    c ≠ ';' ∧ c ≠ '"' := by
  rcases char_of_boundaryOf plain member with word | rfl
  · constructor <;> rintro rfl <;> exact absurd word (by decide)
  · decide

theorem not_mem_boundaryOf {d : Char} (sign : d.isAlphanum = false ∧ d ≠ '-') (low : d.val ≤ 127) :
    d.val.toUInt8 ∉ encode (boundaryOf token) := by
  rw [encode_of_ascii fun c member => ascii_boundaryOf plain member]
  intro member
  obtain ⟨c, within, same⟩ := List.mem_map.mp member
  have bound := ascii_boundaryOf plain within
  have equal : c = d := by
    have low_bytes := congrArg UInt8.toNat same
    simp only [UInt32.toNat_toUInt8] at low_bytes
    simp only [UInt32.le_iff_toNat_le] at bound low
    refine Char.ext (UInt32.toNat_inj.mp ?_)
    have limit : (127 : UInt32).toNat = 127 := rfl
    omega
  subst equal
  exact (char_of_boundaryOf plain within).elim (by simp [sign]) sign.2

end Boundary

theorem whole_boundaryOf (plain : ∀ c ∈ token.toList, c.isAlphanum) :
    13 ∉ encode (boundaryOf token) ∧ 10 ∉ encode (boundaryOf token) :=
  ⟨not_mem_boundaryOf plain (d := '\r') (by decide) (by decide),
    not_mem_boundaryOf plain (d := '\n') (by decide) (by decide)⟩

def Headed (p : Part) : Prop :=
  ∀ l ∈ head p, 13 ∉ encode l ∧ ¬ encode (boundaryOf "") <:+: encode l

instance (p : Part) : Decidable (Headed p) := inferInstanceAs (Decidable (∀ l ∈ head p, _))

theorem readable_of_headed {p : Part} (headed : Headed p)
    (bare : ∀ file ∈ p.file, ';' ∉ file.2.toList ∧ file.2.toList.head? ≠ some ' ')
    (absent : ¬ encode (boundaryOf token) <:+: p.content) : Readable (boundaryOf token) p where
  unbroken l member := (headed l member).1
  unmarked l member found := by
    have start : encode (boundaryOf "") <+: encode (boundaryOf token) := by
      rw [boundaryOf, boundaryOf, encode_append, encode_append]
      exact List.prefix_append _ _
    exact (headed l member).2 (start.isInfix.trans found)
  absent := absent
  bare := bare

theorem readable_text {name value : String} (headed : Headed (.text name ""))
    (absent : ¬ encode (boundaryOf token) <:+: encode value) :
    Readable (boundaryOf token) (.text name value) :=
  readable_of_headed headed (fun _ none => nomatch none) absent

theorem readable_report (format : Report.Format)
    (absent : ¬ encode (boundaryOf token) <:+: encode report) :
    Readable (boundaryOf token) ⟨"report",
      some (format.stem ++ "." ++ format.extension, format.mediaType), encode report⟩ := by
  refine readable_of_headed ?_ ?_ absent
  · show Headed ⟨"report", some (format.stem ++ "." ++ format.extension, format.mediaType), []⟩
    cases format <;> decide +kernel
  · rintro file ⟨⟩
    cases format <;> decide +kernel

theorem readable_form (absent : ∀ p ∈ t.form report, ¬ encode (boundaryOf token) <:+: p.content) :
    ∀ p ∈ t.form report, Readable (boundaryOf token) p := by
  intro p member
  have unmarked := absent p member
  simp only [form, List.mem_append, List.mem_cons, List.not_mem_nil, or_false,
    List.mem_map] at member
  rcases member with (rfl | rfl | rfl | rfl | rfl) | ⟨message, -, rfl⟩
  · exact readable_report t.format unmarked
  · exact readable_text (by decide +kernel) unmarked
  · have both : ∀ name ∈ ["t", "revision"], Headed (.text name "") := by decide +kernel
    exact readable_text (both _ (by cases t.revision <;> simp [Revision.formField])) unmarked
  · exact readable_text (by decide +kernel) unmarked
  · exact readable_text (by decide +kernel) unmarked
  · exact readable_text (by decide +kernel) unmarked

/-- A form is read as the report and what is said of it, byte for byte and in one order, and there
    is nothing else in it. -/
theorem form_reads_back {t : UploadTarget} {token report : String}
    (plain : ∀ c ∈ token.toList, c.isAlphanum)
    (absent : ∀ p ∈ t.form report, ¬ encode (boundaryOf token) <:+: p.content) (url : Web.Url) :
    let request := t.request url (boundaryOf token) report
    ∃ mediaType body, request.headers.lookup "Content-Type" = some mediaType ∧
      request.body = some body ∧ readForm mediaType body = some
        { preamble := []
          sections :=
            [⟨[("Content-Disposition", ⟨"form-data",
                  [("name", "report"), ("filename", t.format.stem ++ "." ++ t.format.extension)]⟩),
                ("Content-Type", ⟨t.format.mediaType, []⟩)], encode report⟩,
              .text "project" t.project,
              (match t.revision with
                | .commit c => .text "t" (c.branch ++ ":" ++ c.timestamp)
                | .id id => .text "revision" id),
              .text "partition" t.partition,
              .text "format" t.format.tag] ++
            (match t.message with
              | some message => [.text "message" message]
              | none => [])
          epilogue := [] } := by
  intro request
  have filled : boundaryOf token ≠ "" := by simp [boundaryOf]
  have read := Web.Form.readForm_encode (fun _ => bare_boundaryOf plain) (whole_boundaryOf plain)
    (readable_form absent) filled
  refine ⟨_, _, rfl, rfl, read.trans ?_⟩
  cases revision : t.revision <;> cases message : t.message <;>
    simp [form, revision, message, sectionOf, Part.text, Section.text, Revision.formField,
      Commit.text]

theorem form_with_marks_reads_back :
    let t : UploadTarget :=
      { sample with
        project := "\"; name=\"format\"\r\n\r\n", partition := ""
        message := some "--tia-relay-\r\n--" }
    (∀ c ∈ "0a".toList, c.isAlphanum) ∧
      (∀ p ∈ t.form "\r\n--tia-relay-0", ¬ encode (boundaryOf "0a") <:+: p.content) ∧
      ∀ url, ∃ mediaType body,
        (t.request url (boundaryOf "0a") "\r\n--tia-relay-0").headers.lookup
          "Content-Type" = some mediaType ∧
        (t.request url (boundaryOf "0a") "\r\n--tia-relay-0").body = some body ∧
        ((readForm mediaType body).map fun read => read.sections.length) = some 6 := by
  intro t
  have plain : ∀ c ∈ "0a".toList, c.isAlphanum := by simp
  have absent : ∀ p ∈ t.form "\r\n--tia-relay-0",
      ¬ encode (boundaryOf "0a") <:+: p.content := by decide +kernel
  refine ⟨plain, absent, fun url => ?_⟩
  obtain ⟨mediaType, body, named, sent, read⟩ := form_reads_back plain absent url
  exact ⟨mediaType, body, named, sent, by rw [read]; rfl⟩

end UploadTarget

end TestImpact
