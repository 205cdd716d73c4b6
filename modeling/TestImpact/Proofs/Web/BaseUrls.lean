import TestImpact.Proofs.Web.Rereading

namespace TestImpact

namespace Web.Url

variable {front path : List String} {u : Url}

/-- The segments stand in front of a path, and some more behind them. -/
def InFront (front path : List String) : Prop := front <+: path ∧ front.length < path.length

theorem inFront_concat (stays : front <+: path) (s : String) : InFront front (path ++ [s]) := by
  have short := stays.length_le
  refine ⟨stays.trans (List.prefix_append _ _), ?_⟩
  rw [List.length_append, List.length_singleton]
  omega

theorem InFront.root (before : InFront front path) : front <+: root path := by
  unfold Url.root
  split
  · rename_i lone
    have none : front = [] := by
      have short := before.2
      rw [lone, List.length_singleton] at short
      exact List.length_eq_zero_iff.mp (by omega)
    rw [none]
  · exact before.1

theorem InFront.stepBack (before : InFront front path) : front <+: stepBack path := by
  unfold Url.stepBack
  split
  · exact before.1
  · refine List.prefix_of_prefix_length_le before.1 (List.dropLast_prefix path) ?_
    have short := before.2
    rw [List.length_dropLast]
    omega

theorem InFront.tidy (head : front.head? ≠ some "") (before : InFront front path) :
    InFront front (tidyFilePath path) := by
  cases front with
  | nil =>
    refine ⟨List.nil_prefix, ?_⟩
    unfold tidyFilePath
    split
    · exact Nat.zero_lt_one
    · rename_i other
      exact List.length_pos_of_ne_nil other
  | cons s front =>
    obtain ⟨⟨rest, rfl⟩, _⟩ := id before
    rwa [tidyFilePath_of_head (by simp) (by simpa using head)]

theorem kind_addSegment (u : Url) (text : String) : (u.addSegment text).kind = u.kind := by
  unfold addSegment
  split <;> rfl

theorem InFront.addSegment (tidy : u.kind = .file → front.head? ≠ some "")
    (before : InFront front u.path) (text : String) : InFront front (u.addSegment text).path := by
  have untidy (kept : List Char) : InFront front (if kept = ['.'] then appendSegment u.path ""
      else if kept = ['.', '.'] then Url.stepBack u.path ++ [""]
      else appendSegment u.path (String.ofList (Percent.encode u.segmentSet kept))) := by
    simp only [appendSegment_eq]
    repeat' split
    · exact inFront_concat before.root _
    · exact inFront_concat before.stepBack _
    · exact inFront_concat before.root _
  unfold Url.addSegment
  split
  · exact before
  · simp only
    split
    · rename_i file
      exact (untidy _).tidy (tidy file)
    · exact untidy _

theorem InFront.foldl (tidy : u.kind = .file → front.head? ≠ some "")
    (before : InFront front u.path) (texts : List String) :
    InFront front (texts.foldl Url.addSegment u).path := by
  induction texts generalizing u with
  | nil => exact before
  | cons text texts ih =>
    exact ih (by rwa [kind_addSegment]) (before.addSegment tidy text)

theorem inFront_extend (tidy : u.Tidy) (other : u.path ≠ ["", ""]) {text : String}
    (faithful : Faithful text) (filled : text ≠ "") (texts : List String) :
    InFront (stem u.path) (u.extend (text :: texts)).path := by
  have stays := root_dropFinalSlash other
  obtain ⟨path, -, -⟩ := addSegment_path tidy.dropFinalSlash faithful (.inr filled)
  rw [extend, List.foldl_cons]
  refine InFront.foldl (fun file => ?_) ?_ texts
  · rw [kind_addSegment] at file
    exact stays ▸ tidy.dropFinalSlash file
  · rw [path, stays]
    exact inFront_concat List.prefix_rfl _

/-- Of two empty segments none is kept, as if the path were that of the root. -/
theorem extend_of_empties (empties : u.path = ["", ""]) (texts : List String) :
    u.extend texts = { u with path := [""] }.extend texts := by
  have same : u.dropFinalSlash = { u with path := [""] } := by
    simp [Url.dropFinalSlash, empties]
  have stays : { u with path := [""] }.dropFinalSlash = { u with path := [""] } := by
    simp [Url.dropFinalSlash]
  rw [extend, extend, same, stays]

theorem settled_append {port : Nat} (settled : Settled port u) :
    Settled port { u with path := u.path ++ [""] } :=
  { settled with
    kind := settled.kind
    filled := by simp
    path := allSettled_append settled.path allSettled_empty }

theorem withFinalSlash_eq {port : Nat} (kind : u.kind = .web port) :
    u.withFinalSlash =
      if u.path.getLast? = some "" then u else { u with path := u.path ++ [""] } := by
  have other : u.kind ≠ .file := by simp [kind]
  unfold withFinalSlash
  split
  · rfl
  · simp only

theorem getLast_withFinalSlash {port : Nat} (kind : u.kind = .web port) :
    u.withFinalSlash.path.getLast? = some "" := by
  rw [withFinalSlash_eq kind]
  split
  · assumption
  · simp

theorem settled_withFinalSlash {port : Nat} (settled : Settled port u) :
    Settled port u.withFinalSlash := by
  rw [withFinalSlash_eq settled.kind]
  split
  · exact settled
  · exact settled_append settled

theorem pathText_of_getLast (last : u.path.getLast? = some "") :
    ∃ front, u.pathText = front ++ "/" := by
  refine ⟨({ u with path := u.path.dropLast } : Url).pathText, ?_⟩
  have whole : u.path = u.path.dropLast ++ [""] := (List.dropLast_append_getLast? "" last).symm
  unfold pathText
  rw [whole]
  simp

end Web.Url

namespace Web

structure IsBaseFor (base : Url) (text : String) (u : Url) : Prop where
  ends : ∃ front, base.pathText = front ++ "/"
  others : base = { u with path := base.path }
  path : base.path = if u.path.getLast? = some "" then u.path else u.path ++ [""]
  again : Url.read base.text = .ok (.hierarchical base) ∧ baseUrl base.text = .ok base
  slashed : u.path.getLast? ≠ some "" →
    let v := { u with path := u.path ++ [""] }
    Url.read v.text = .ok (.hierarchical v) ∧
      ∀ text', Url.read text' = .ok (.hierarchical v) →
        ∃ base', baseUrl text' = .ok base' ∧
          (∀ texts, base'.extend texts = base.extend texts) ∧
          ∀ t : UploadTarget, t.url = text → { t with url := text' }.uploadUrl = t.uploadUrl

/-- What is asked for, and where reports go, is behind all segments of a base. -/
structure StaysInFront (base : Url) : Prop where
  requests : ∀ a : Agent, a.base = base → ∀ op,
    Url.InFront (Url.stem base.path) (a.request op).url.path
  uploads : ∀ t : UploadTarget, baseUrl t.url = .ok base →
    ∃ url, t.uploadUrl = .ok url ∧ Url.InFront (Url.stem base.path) url.path

variable {text : String} {base u : Url}

theorem baseUrl_of_read (read : Url.read text = .ok (.hierarchical u)) :
    baseUrl text = .ok u.withFinalSlash := by
  rw [baseUrl, read]

theorem isBaseFor {port : Nat} (read : Url.read text = .ok (.hierarchical u))
    (kind : u.kind = .web port) : IsBaseFor u.withFinalSlash text u := by
  have settled := Url.settled_read read kind
  have slashes := Url.withFinalSlash_eq kind
  have last := Url.getLast_withFinalSlash kind
  have again := Url.read_text (Url.settled_withFinalSlash settled)
  have kept : u.withFinalSlash.withFinalSlash = u.withFinalSlash := if_pos last
  refine ⟨Url.pathText_of_getLast last, ?_, ?_, ⟨again, ?_⟩, ?_⟩
  · rw [slashes]
    split <;> rfl
  · rw [slashes]
    split <;> rfl
  · rw [baseUrl_of_read again, kept]
  · intro bare
    rw [if_neg bare] at slashes
    refine ⟨Url.read_text (Url.settled_append settled), fun text' read' => ?_⟩
    have based : baseUrl text' = baseUrl text := by
      rw [baseUrl_of_read read', baseUrl_of_read read, ← slashes, kept]
    refine ⟨u.withFinalSlash, based.trans (baseUrl_of_read read), fun _ => rfl, ?_⟩
    rintro t rfl
    simp only [UploadTarget.uploadUrl, based]

theorem exists_texts (a : Agent) (op : Collector.Operation) :
    ∃ texts, (a.request op).url.path = (a.base.extend ("testrun" :: texts)).path := by
  cases op with
  | register request =>
    refine ⟨["start"], ?_⟩
    cases baseline : request.baseline <;>
    · simp only [Agent.request, Agent.registerRequest, Agent.post, baseline, withPair_path]
      rfl
  | startTest id path => exact ⟨_, rfl⟩
  | endTest id execution retrieve => exact ⟨_, withPair_path _ _ _⟩
  | endRun id upload => exact ⟨_, withPair_path _ _ _⟩

theorem staysInFront_iff (tidy : base.Tidy) : StaysInFront base ↔ base.path ≠ ["", ""] := by
  have testrun : Url.Faithful "testrun" := faithful_word (by simp)
  have api : Url.Faithful "api" := faithful_word (by simp)
  constructor
  · intro stays empties
    -- One request shows the loss: its first word comes where the empty segment was.
    have faithful : ∀ t ∈ ["testrun", "", "end"], Url.Faithful t := by decide
    have path : (base.extend ["testrun", "", "end"]).path = _ :=
      Url.extend_path tidy (by decide) faithful
    have none : Url.root base.dropFinalSlash.path = [] := by
      rw [Url.dropFinalSlash_path, empties]
      rfl
    have stem : Url.stem base.path = [""] := by
      rw [empties]
      rfl
    obtain ⟨before, -⟩ := stays.requests ⟨base, 30⟩ rfl (.endRun "" false)
    have asked : ((⟨base, 30⟩ : Agent).request (.endRun "" false)).url.path = _ :=
      (withPair_path _ _ _).trans path
    rw [asked, none, stem, List.nil_append, List.map_cons, List.cons_prefix_cons] at before
    exact base.spelled_ne_empty (by decide) before.1.symm
  · intro other
    refine ⟨?_, fun t based => ?_⟩
    · rintro a rfl op
      obtain ⟨texts, same⟩ := exists_texts a op
      rw [same]
      exact Url.inFront_extend tidy other testrun (by decide) texts
    · refine ⟨_, by rw [UploadTarget.uploadUrl, based]; rfl, ?_⟩
      exact Url.inFront_extend tidy other api (by decide) _

/-- A base URL of the web is the one that was read, with a slash at the end; its text is read as
    it again. All of its segments stay in front of what is added, unless there are just two and
    both are empty. -/
theorem base_urls_stay (based : baseUrl text = .ok base) :
    (∀ port, base.kind = .web port →
      ∃ u, Url.read text = .ok (.hierarchical u) ∧ IsBaseFor base text u) ∧
    (StaysInFront base ↔ base.path ≠ ["", ""]) ∧
    (base.path = ["", ""] →
      ∀ texts, base.extend texts = { base with path := [""] }.extend texts) := by
  refine ⟨fun port kind => ?_, staysInFront_iff (Url.baseUrl_tidy based), Url.extend_of_empties⟩
  obtain ⟨u, read, rfl⟩ := Url.baseUrl_eq based
  have same : u.withFinalSlash.kind = u.kind := by
    unfold Url.withFinalSlash
    repeat' split
    all_goals rfl
  exact ⟨u, read, isBaseFor read (same.symm.trans kind)⟩

def Url.agent : Url := { scheme := "http", host := some "agent.test", path := ["a", ""] }

theorem agent_stays :
    baseUrl "http://agent.test/a" = .ok Url.agent ∧ Url.agent.kind = .web 80 ∧
      (∃ u, Url.read "http://agent.test/a" = .ok (.hierarchical u) ∧
        IsBaseFor Url.agent "http://agent.test/a" u) ∧
      StaysInFront Url.agent := by
  have based : baseUrl "http://agent.test/a" = .ok Url.agent := by decide +kernel
  have kind : Url.agent.kind = .web 80 := by decide
  obtain ⟨kept, stays, -⟩ := base_urls_stay based
  exact ⟨based, kind, kept 80 kind, stays.mpr (by decide)⟩

theorem empty_segment_is_lost :
    let base : Url := { scheme := "http", host := some "agent.test", path := ["", ""] }
    let url := ((⟨base, 30⟩ : Agent).request (.startTest "s-1" "T1")).url
    baseUrl "http://agent.test//" = .ok base ∧
      url.text = "http://agent.test/testrun/s-1/test/start/T1" ∧
      ¬ Url.stem base.path <+: url.path := by
  refine ⟨by decide +kernel, by decide, by decide⟩

end Web

end TestImpact
