import TestImpact.Delivery.Upload
import TestImpact.Proofs.Collection.Exchanges
import TestImpact.Proofs.Delivery.Upload
import TestImpact.Proofs.Web.Segments

namespace TestImpact

namespace Web.Url

theorem head_tidyFilePath (path : List String) : (root (tidyFilePath path)).head? ≠ some "" := by
  induction path with
  | nil => decide
  | cons s rest ih =>
    by_cases empty : s = ""
    · subst empty
      rwa [tidyFilePath_cons_empty]
    · have ne : s :: rest ≠ [""] := by simp [empty]
      rw [tidyFilePath_cons_of_ne empty, root_of_ne ne]
      simpa using empty

theorem head_readSegments (cs : List Char) :
    (root (readSegments .file cs).segments).head? ≠ some "" :=
  head_tidyFilePath (Trail.walk .file {} (cs.splitOnP (isSlash .file))).segments

theorem head_readPath (u : Url) (cs : List Char) :
    (root (readPath .file u cs).path).head? ≠ some "" := by
  unfold readPath
  show (root (if (splitParts cs).path.isEmpty = true then [""] else _)).head? ≠ some ""
  split
  · decide
  · exact head_readSegments _

theorem head_readFileBehindSlashes {scheme : String} {cs : List Char} {u : Url}
    (read : readFileBehindSlashes scheme cs = .ok u) : (root u.path).head? ≠ some "" := by
  unfold readFileBehindSlashes at read
  simp only at read
  split at read
  · cases read
    exact head_readPath _ _
  · split at read
    all_goals
      obtain ⟨host, -, read⟩ := bind_eq_ok.mp read
      split at read
      all_goals
        cases read
        exact head_readSegments _

theorem head_readFile {scheme : String} {cs : List Char} {u : Url}
    (read : readFile scheme cs = .ok u) : (root u.path).head? ≠ some "" := by
  unfold readFile at read
  simp only at read
  repeat' split at read
  · cases read
    exact head_readPath _ _
  · cases read
    exact head_readPath _ _
  · exact head_readFileBehindSlashes read
  · cases read
    exact head_readPath _ _

theorem readAuthority_scheme {k : SchemeKind} {scheme : String} {cs : List Char} {u : Url}
    (read : readAuthority k scheme cs = .ok u) : u.scheme = scheme := by
  unfold readAuthority at read
  simp only at read
  split at read
  · cases read
  · split at read
    · cases read
    · split at read
      all_goals
        obtain ⟨host, -, read⟩ := bind_eq_ok.mp read
        obtain ⟨port, -, read⟩ := bind_eq_ok.mp read
        split at read
        · cases read
        · cases read
          rfl

theorem eq_ok_of_map {r : Except UrlFault Url} {u : Url}
    (mapped : r.map Reading.hierarchical = .ok (.hierarchical u)) : r = .ok u := by
  cases r with
  | error fault => cases mapped
  | ok u' =>
    cases mapped
    rfl

theorem readOther_scheme {scheme : String} {cs : List Char} {u : Url}
    (read : readOther scheme cs = .ok (.hierarchical u)) : u.scheme = scheme := by
  unfold readOther at read
  split at read
  · exact readAuthority_scheme (eq_ok_of_map read)
  · cases read
    rfl
  · cases read

theorem tidy_of_kind {u : Url} {k : SchemeKind} (kind : u.kind = k) (other : k ≠ .file) : u.Tidy :=
  fun file => absurd (kind.symm.trans file) other

theorem read_tidy {text : String} {u : Url} (read : Url.read text = .ok (.hierarchical u)) :
    u.Tidy := by
  unfold Url.read at read
  split at read
  · cases read
  · split at read
    · rename_i port kind
      have same := readAuthority_scheme (eq_ok_of_map read)
      exact tidy_of_kind ((congrArg SchemeKind.of same).trans kind) (by simp)
    · exact fun _ => head_readFile (eq_ok_of_map read)
    · rename_i kind
      have same := readOther_scheme read
      exact tidy_of_kind ((congrArg SchemeKind.of same).trans kind) (by simp)

theorem Tidy.withFinalSlash {u : Url} (tidy : u.Tidy) : u.withFinalSlash.Tidy := by
  unfold Url.withFinalSlash
  split
  · exact tidy
  · by_cases file : u.kind = .file
    · simp only [if_pos file]
      exact fun _ => head_readSegments _
    · simp only [if_neg file]
      exact fun file' => absurd file' file

theorem baseUrl_eq {text : String} {base : Url} (based : baseUrl text = .ok base) :
    ∃ u, Url.read text = .ok (.hierarchical u) ∧ base = u.withFinalSlash := by
  unfold baseUrl at based
  split at based
  · cases based
  · cases based
  · rename_i u read
    cases based
    exact ⟨u, read, rfl⟩

theorem baseUrl_tidy {text : String} {base : Url} (based : baseUrl text = .ok base) :
    base.Tidy := by
  obtain ⟨u, read, rfl⟩ := baseUrl_eq based
  exact (read_tidy read).withFinalSlash

/-- Texts that go on behind a path, in segments that can be told apart in its text. -/
def written (segments : List String) : List Char := segments.flatMap fun s => '/' :: s.toList

theorem toList_pathText (u : Url) : u.pathText.toList = written u.path := by
  simp [pathText, written, String.toList_join, List.flatMap_map]

def staysIn (c : Char) : Bool := c ≠ '/' && c ≠ '?' && c ≠ '#'

def Stops (tail : List Char) : Prop := tail.takeWhile staysIn = []

theorem Spells.takeWhile {segment text : String} (spells : Spells segment text) {tail : List Char}
    (stops : Stops tail) : (segment.toList ++ tail).takeWhile staysIn = segment.toList := by
  have plain : ∀ c ∈ segment.toList, staysIn c = true := by
    intro c member
    obtain ⟨slash, mark, hash⟩ := spells.whole c member
    simp [staysIn, slash, mark, hash]
  rw [List.takeWhile_append_of_pos plain, stops, List.append_nil]

theorem stops_written {segments : List String} {tail : List Char} (stops : Stops tail) :
    Stops (written segments ++ tail) := by
  cases segments with
  | nil => exact stops
  | cons s segments => rfl

theorem texts_of_written {segments segments' texts texts' : List String} {tail tail' : List Char}
    (spelled : List.Forall₂ Spells segments texts) (spelled' : List.Forall₂ Spells segments' texts')
    (count : texts.length = texts'.length) (stops : Stops tail) (stops' : Stops tail')
    (same : written segments ++ tail = written segments' ++ tail') : texts = texts' := by
  induction spelled generalizing segments' texts' with
  | nil => exact (List.length_eq_zero_iff.mp count.symm).symm
  | @cons s text segments texts first rest ih =>
    cases spelled' with
    | nil => cases count
    | @cons s' text' segments' texts' first' rest' =>
      simp only [written, List.flatMap_cons, List.cons_append, List.append_assoc,
        List.cons.injEq, true_and] at same
      have heads : s.toList = s'.toList := by
        rw [← first.takeWhile (stops_written stops), ← first'.takeWhile (stops_written stops')]
        exact congrArg (List.takeWhile staysIn) same
      have tails := same
      rw [heads, List.append_cancel_left_eq] at tails
      have texts_eq := ih rest' (Nat.succ.inj count) tails
      rw [String.toList_inj.mp heads] at first
      rw [first.unique first', texts_eq]

/-- The URL is the base, but for what is behind its path and in its query. -/
structure Extends (base url : Url) (texts : List String) : Prop where
  scheme : url.scheme = base.scheme
  authority : url.authorityText = base.authorityText
  path : ∃ segments, url.path = root base.dropFinalSlash.path ++ segments ∧
    List.Forall₂ Spells segments texts

theorem extend_fields (u : Url) (texts : List String) :
    ∃ path, u.extend texts = { u with path } := by
  have added (v : Url) (text : String) : ∃ path, v.addSegment text = { v with path } := by
    unfold addSegment
    split
    · exact ⟨v.path, rfl⟩
    · exact ⟨_, rfl⟩
  have dropped : ∃ path, u.dropFinalSlash = { u with path } := by
    unfold Url.dropFinalSlash
    split
    · exact ⟨_, rfl⟩
    · exact ⟨u.path, rfl⟩
  have folded : ∀ v : Url, (∃ path, v = { u with path }) →
      ∃ path, texts.foldl addSegment v = { u with path } := by
    induction texts with
    | nil => exact fun v same => same
    | cons text texts ih =>
      rintro v ⟨path, rfl⟩
      obtain ⟨path', same⟩ := added { u with path } text
      exact ih _ ⟨path', same⟩
  exact folded _ dropped

theorem extends_extend {u : Url} (tidy : u.Tidy) {text : String} (filled : text ≠ "")
    {texts : List String} (faithful : ∀ t ∈ text :: texts, Faithful t) :
    Extends u (u.extend (text :: texts)) (text :: texts) := by
  obtain ⟨path, same⟩ := u.extend_fields (text :: texts)
  refine ⟨by rw [same], by rw [same]; rfl, ?_⟩
  exact ⟨_, extend_path tidy filled faithful, u.spelled_all _⟩

theorem Extends.withPair {base url : Url} {texts : List String} (e : Extends base url texts)
    (name value : String) : Extends base (url.withPair name value) texts := by
  unfold Url.withPair
  split
  · exact ⟨e.scheme, e.authority, e.path⟩
  · exact ⟨e.scheme, e.authority, e.path⟩

theorem Extends.text {base url : Url} {texts : List String} (e : Extends base url texts) :
    ∃ segments tail, List.Forall₂ Spells segments texts ∧ Stops tail ∧
      url.text.toList = (base.scheme ++ ":" ++ base.authorityText).toList ++
        (written (root base.dropFinalSlash.path) ++ (written segments ++ tail)) := by
  obtain ⟨segments, path, spelled⟩ := e.path
  refine ⟨segments, (behind "?" url.query ++ behind "#" url.fragment).toList, spelled, ?_, ?_⟩
  · cases url.query <;> cases url.fragment <;> simp [Stops, behind, staysIn]
  · simp only [Url.text, e.scheme, e.authority, String.toList_append, toList_pathText, path,
      written, List.flatMap_append, List.append_assoc]

/-- Among the extensions of a URL the text alone says what they were made of. -/
theorem Extends.texts_eq {base url url' : Url} {texts texts' : List String}
    (e : Extends base url texts) (e' : Extends base url' texts')
    (count : texts.length = texts'.length) (same : url.text = url'.text) : texts = texts' := by
  obtain ⟨segments, tail, spelled, stops, text⟩ := e.text
  obtain ⟨segments', tail', spelled', stops', text'⟩ := e'.text
  rw [same, text'] at text
  have rest := List.append_cancel_left (List.append_cancel_left text)
  exact (texts_of_written spelled' spelled count.symm stops' stops rest).symm

end Web.Url

open Web.Url Collector

def Collector.Operation.onTest? : Operation → Option (String × String × String)
  | .startTest id path => some (id, "start", path)
  | .endTest id execution _ => some (id, "end", execution.path)
  | .register _ | .endRun .. => none

def Agent.urls {σ : Type} (a : Agent) (http : Web.Http σ) (op : Operation) (w : σ) : List Web.Url :=
  ((a.perform http.noted op).outcome (w, [])).2.2.map (·.request.url)

/-- A session and a test each have a segment of the path that is asked for, if it can take them up
    as they are, and then no other test is asked for by the same URL. -/
structure Agent.AddressesTests (a : Agent) : Prop where
  path : ∀ {σ : Type} (http : Web.Http σ) (w : σ) op id verb path,
    op.onTest? = some (id, verb, path) →
    ∃ url, a.urls http op w = [url] ∧
      (Behind a.base.path ["testrun", id, "test", verb, path] url.path ↔
        a.base.path ≠ ["", ""] ∧ Faithful id ∧ Faithful path)
  distinct : ∀ {σ τ : Type} (http : Web.Http σ) (http' : Web.Http τ) w w' op op' id id' verb verb'
    path path' url url', op.onTest? = some (id, verb, path) →
    op'.onTest? = some (id', verb', path') → Faithful id → Faithful id' → Faithful path →
    Faithful path' → a.urls http op w = [url] → a.urls http' op' w' = [url'] →
    url.text = url'.text → (id, verb, path) = (id', verb', path')

structure UploadTarget.AddressesProject (t : UploadTarget) (base url : Web.Url) : Prop where
  based : Web.baseUrl t.url = .ok base
  uploads : t.uploadUrl = .ok url
  path : Behind base.path ["api", "projects", t.project, "external-analysis", "reports"] url.path ↔
    base.path ≠ ["", ""] ∧ Faithful t.project
  distinct : ∀ (t' : UploadTarget) url', t'.url = t.url → t'.uploadUrl = .ok url' →
    Faithful t.project → Faithful t'.project → url.text = url'.text → t.project = t'.project

theorem faithful_word {text : String} (word : text ∈ ["testrun", "test", "start", "end", "api",
    "projects", "external-analysis", "reports"]) : Faithful text := by
  have all : ["testrun", "test", "start", "end", "api", "projects", "external-analysis",
    "reports"].all (Faithful ·) = true := by decide
  exact of_decide_eq_true (List.all_eq_true.mp all text word)

section Addresses

variable {σ : Type} {a : Agent} {op : Operation} {id verb path : String}

theorem onTest_verb (on : op.onTest? = some (id, verb, path)) : Faithful verb := by
  cases op with
  | register request => cases on
  | startTest id' path' =>
    cases on
    exact faithful_word (by simp)
  | endTest id' execution retrieve =>
    cases on
    exact faithful_word (by simp)
  | endRun id' upload => cases on

theorem Agent.urls_eq (a : Agent) (http : Web.Http σ) (op : Operation) (w : σ) :
    a.urls http op w = [(a.request op).url] := by
  rw [urls, outcome_perform_noted]
  rfl

theorem Agent.request_url (on : op.onTest? = some (id, verb, path)) :
    let url := a.base.extend ["testrun", id, "test", verb, path]
    (a.request op).url = url ∨ ∃ name value, (a.request op).url = url.withPair name value := by
  cases op with
  | register request => cases on
  | startTest id' path' =>
    cases on
    exact .inl rfl
  | endTest id' execution retrieve =>
    cases on
    exact .inr ⟨_, _, rfl⟩
  | endRun id' upload => cases on

theorem withPair_path (url : Web.Url) (name value : String) :
    (url.withPair name value).path = url.path := by
  unfold withPair
  split <;> rfl

theorem faithful_test_iff (word : Faithful verb) :
    (∀ t ∈ ["testrun", id, "test", verb, path], Faithful t) ↔ Faithful id ∧ Faithful path := by
  have testrun : Faithful "testrun" := faithful_word (by simp)
  have test : Faithful "test" := faithful_word (by simp)
  simp [testrun, test, word]

theorem faithful_project_iff {project : String} :
    (∀ t ∈ ["api", "projects", project, "external-analysis", "reports"], Faithful t) ↔
      Faithful project := by
  have api : Faithful "api" := faithful_word (by simp)
  have projects : Faithful "projects" := faithful_word (by simp)
  have analysis : Faithful "external-analysis" := faithful_word (by simp)
  have reports : Faithful "reports" := faithful_word (by simp)
  simp [api, projects, analysis, reports]

theorem Agent.extends_request (tidy : a.base.Tidy) (on : op.onTest? = some (id, verb, path))
    (faithful : Faithful id ∧ Faithful path) :
    Extends a.base (a.request op).url ["testrun", id, "test", verb, path] := by
  have extends_base := extends_extend tidy (by decide)
    ((faithful_test_iff (onTest_verb on)).mpr faithful)
  rcases Agent.request_url (a := a) on with same | ⟨name, value, same⟩
  · rw [same]
    exact extends_base
  · rw [same]
    exact extends_base.withPair name value

theorem Agent.addressesTests (tidy : a.base.Tidy) : a.AddressesTests where
  path http w op id verb path on := by
    refine ⟨(a.request op).url, a.urls_eq http op w, ?_⟩
    have same : (a.request op).url.path =
        (a.base.extend ["testrun", id, "test", verb, path]).path := by
      rcases Agent.request_url (a := a) on with same | ⟨name, value, same⟩
      · rw [same]
      · rw [same, withPair_path]
    rw [same, behind_extend_iff tidy (by decide), faithful_test_iff (onTest_verb on)]
  distinct http http' w w' op op' id id' verb verb' path path' url url' on on' faithful faithful'
      test test' sent sent' same := by
    obtain rfl : (a.request op).url = url := by simpa [a.urls_eq] using sent
    obtain rfl : (a.request op').url = url' := by simpa [a.urls_eq] using sent'
    have texts := (Agent.extends_request tidy on ⟨faithful, test⟩).texts_eq
      (Agent.extends_request tidy on' ⟨faithful', test'⟩) rfl same
    simp_all

end Addresses

theorem UploadTarget.addressesProject {t : UploadTarget} (valid : t.validate = .ok ()) :
    ∃ base url, t.AddressesProject base url := by
  obtain ⟨base, based, -⟩ := bind_eq_ok.mp valid
  have tidy := baseUrl_tidy based
  have upload {t' : UploadTarget} (same : t'.url = t.url) : t'.uploadUrl =
      .ok (base.extend ["api", "projects", t'.project, "external-analysis", "reports"]) := by
    rw [uploadUrl, same, based]
    rfl
  refine ⟨base, _, based, upload rfl, ?_, ?_⟩
  · rw [behind_extend_iff tidy (by decide), faithful_project_iff]
  · intro t' url' same uploads faithful faithful' text
    cases (upload same).symm.trans uploads
    have api : "api" ≠ "" := by decide
    have texts := (extends_extend tidy api (faithful_project_iff.mpr faithful)).texts_eq
      (extends_extend tidy api (faithful_project_iff.mpr faithful')) rfl text
    simp_all

/-- With every base URL that is accepted, a text is a segment of its own exactly if it is no step in
    a path and nothing of it is dropped, unless the base's path is two empty segments. -/
theorem texts_have_segments (address : AgentAddress) (t : UploadTarget) :
    (∀ a, Agent.connect address = .ok a → a.AddressesTests) ∧
      (t.validate = .ok () → ∃ base url, t.AddressesProject base url) := by
  constructor
  · intro a connected
    obtain ⟨base, based, same⟩ := bind_eq_ok.mp connected
    cases same
    exact Agent.addressesTests (baseUrl_tidy based)
  · exact UploadTarget.addressesProject

example : (Agent.sample.request (.startTest "s-1" "com/example/My Test#ok")).url.text =
    "http://agent.test/testrun/s-1/test/start/com%2Fexample%2FMy%20Test%23ok" := by decide

def UploadTarget.slashed : UploadTarget := { UploadTarget.sample with project := "a/b %" }

theorem slashed_has_segments :
    Agent.connect ⟨"http://agent.test", 30⟩ = .ok Agent.sample ∧ Agent.sample.AddressesTests ∧
      UploadTarget.slashed.validate = .ok () ∧
      ∃ base url, UploadTarget.slashed.AddressesProject base url := by
  have connected : Agent.connect ⟨"http://agent.test", 30⟩ = .ok Agent.sample := by decide +kernel
  have valid : UploadTarget.slashed.validate = .ok () := by decide +kernel
  obtain ⟨tests, project⟩ := texts_have_segments ⟨"http://agent.test", 30⟩ UploadTarget.slashed
  exact ⟨connected, tests _ connected, valid, project valid⟩

/-- Two tests are asked for by one URL, as the tab in the name of one is dropped, and a test whose
    name is a dot has no segment at all. -/
theorem tab_and_dot_are_dropped :
    let url path := (Agent.sample.request (.startTest "s-1" path)).url
    Agent.connect ⟨"http://agent.test", 30⟩ = .ok Agent.sample ∧
      (url "a\tb").text = (url "ab").text ∧
      ¬ Behind Agent.sample.base.path ["testrun", "s-1", "test", "start", "."] (url ".").path := by
  refine ⟨by decide +kernel, by decide, ?_⟩
  rintro ⟨segments, same, spelled⟩
  have path : (Agent.sample.request (.startTest "s-1" ".")).url.path =
      ["testrun", "s-1", "test", "start"] := by decide
  have stem : stem Agent.sample.base.path = [] := by decide
  have count := spelled.length_eq
  rw [path, stem, List.nil_append] at same
  rw [← same] at count
  exact absurd count (by decide)

end TestImpact
