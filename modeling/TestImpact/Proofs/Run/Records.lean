import TestImpact.Collection.Agent
import TestImpact.Proofs.Run.Execution

namespace TestImpact

open Json

theorem Candidate.reads (c : Candidate) : Reads Candidate.reader c.toJson c := by
  have written : Written shape.slots _ _ :=
    .member (f := pathMember) (.present (.text c.path)) <|
    .member (f := sourceMember) (Member.writes_optional .text nofun c.sourcePath) <|
    .member (f := contentMember) (Member.writes_optional .text nofun c.content) <|
    .member (f := clusterMember) (Member.writes_optional .text nofun c.clusterId) <|
    .member (f := partitionMember) (Member.writes_optional .text nofun c.partition) .done
  refine written.object (by decide)
    (by simp only [toJson, List.append_assoc, List.append_nil]; rfl) fun bound reads => ?_
  obtain ⟨path, sourcePath, content, clusterId, partition, -⟩ := reads
  simp [shape, path, sourcePath, content, clusterId, partition]

/-- No score is given, so that all numbers in the record are whole. -/
def PlannedTest.Unscored (t : PlannedTest) : Prop := t.score = none

def Cluster.Unscored (c : Cluster) : Prop := ∀ t ∈ c.tests, t.Unscored

def Plan.Unscored (p : Plan) : Prop := ∀ c ∈ p.clusters, c.Unscored

theorem PlannedTest.reads {t : PlannedTest} (unscored : t.Unscored) :
    Reads PlannedTest.reader t.toJson t := by
  obtain ⟨path, selectionReason, partition, score, duration⟩ := t
  cases unscored
  have written : Written shape.slots _ _ :=
    .member (f := pathMember) (.present (.text path)) <|
    .member (f := reasonMember) (Member.writes_optional .text nofun selectionReason) <|
    .member (f := partitionMember) (Member.writes_optional .text nofun partition) <|
    .member (f := scoreMember) (b := none) (.absent rfl) <|
    .member (f := durationMember) (Member.writes_optional .natural nofun duration) .done
  refine written.object (by decide)
    (by simp only [toJson, List.append_assoc, List.append_nil]; rfl) fun bound reads => ?_
  obtain ⟨path, selectionReason, partition, score, duration, -⟩ := reads
  simp [shape, path, selectionReason, partition, score, duration]

theorem Cluster.reads {c : Cluster} (unscored : c.Unscored) :
    Reads Cluster.reader c.toJson c := by
  have tests : Reads (Reader.list PlannedTest.reader) (.list (c.tests.map PlannedTest.toJson))
      c.tests := .list fun t member => PlannedTest.reads (unscored t member)
  have written : Written shape.slots _ _ :=
    .member (f := idMember) (.present (.text c.id)) <|
    .member (f := testsMember) (.present tests) .done
  refine written.object (by decide) rfl fun bound reads => ?_
  obtain ⟨id, tests, -⟩ := reads
  simp [shape, id, tests]

theorem Plan.reads {p : Plan} (unscored : p.Unscored) : Reads Plan.reader p.toJson p := by
  have clusters : Reads (Reader.list Cluster.reader) (.list (p.clusters.map Cluster.toJson))
      p.clusters := .list fun c member => Cluster.reads (unscored c member)
  have written : Written shape.slots _ _ :=
    .member (f := sessionMember) (.present (.text p.sessionId)) <|
    .member (f := clustersMember) (.present clusters) .done
  refine written.object (by decide) rfl fun bound reads => ?_
  obtain ⟨sessionId, clusters, -⟩ := reads
  simp [shape, sessionId, clusters]

/-- The answer with a text is read as `a`, unless it is longer than an answer may be. -/
def AnswersAs {α : Type} (r : Reader α) (text : String) (a : α) : Prop :=
  ∀ endpoint status,
    Agent.answer r endpoint ⟨status, .whole (Text.Utf8.encode text)⟩ =
      if Web.bodyLimit < (Text.Utf8.encode text).length then
        .error (.connectivity endpoint.text
          "failed to read response body: response too big for into_string")
      else .ok a

def DecodesAs {α : Type} (r : Reader α) (text : String) (a : α) : Prop :=
  Json.read r (.ofString text) = .ok a ∧
    Json.read r (Text.Utf8.units (Text.Utf8.encode text)) = .ok a ∧ AnswersAs r text a

theorem decodesAs_of_read {α : Type} {r : Reader α} {text : String} {a : α}
    (asText : Json.read r (.ofString text) = .ok a) : DecodesAs r text a := by
  refine ⟨asText, by rwa [Text.Utf8.units_encode], fun endpoint status => ?_⟩
  unfold Agent.answer Web.Body.text Web.Body.bytes
  by_cases long : Web.bodyLimit < (Text.Utf8.encode text).length
  · simp only [if_pos long]
    rfl
  · simp [if_neg long, Text.Utf8.lossy_encode, asText]

/-- On one line or on many, as a text, as bytes and as an answer over the network, a value is
    read as `a`. -/
def ReadsBack {α : Type} (r : Reader α) (v : Value) (a : α) : Prop :=
  ∀ text ∈ [v.compact, v.pretty], DecodesAs r text a

theorem Json.Reads.back {α : Type} {r : Reader α} {v : Value} {a : α} (reads : Reads r v a) :
    ReadsBack r v a := by
  intro text form
  refine decodesAs_of_read ?_
  simp only [List.mem_cons, List.not_mem_nil, or_false] at form
  rcases form with rfl | rfl
  · rw [read_compact r reads.whole, reads.tree]
  · rw [Source.ofString, ← Text.Utf8.units_encode, read_pretty r reads.whole, reads.tree]

/-- What one side writes the other reads as it was, whatever texts and numbers are in it and
    whichever of its optional members are there. -/
theorem records_read_back :
    (∀ c : Candidate, ReadsBack Candidate.reader c.toJson c) ∧
    (∀ e : Execution, ReadsBack Execution.reader e.toJson e) ∧
    (∀ a : Attribution, ReadsBack Attribution.reader a.toJson a) ∧
    (∀ t : PlannedTest, t.Unscored → ReadsBack PlannedTest.reader t.toJson t) ∧
    (∀ c : Cluster, c.Unscored → ReadsBack Cluster.reader c.toJson c) ∧
    (∀ p : Plan, p.Unscored → ReadsBack Plan.reader p.toJson p) :=
  ⟨fun c => c.reads.back, fun e => e.reads.back, fun a => a.reads.back,
    fun _ unscored => (PlannedTest.reads unscored).back,
    fun _ unscored => (Cluster.reads unscored).back, fun _ unscored => (Plan.reads unscored).back⟩

def Plan.sample : Plan :=
  { sessionId := "s \"1\""
    clusters :=
      [⟨"", []⟩, ⟨"\\ \n é", [{ path := "\x01", duration := some 18446744073709551615 },
        { path := "", selectionReason := some "\t/", partition := some "𝄞" }]⟩] }

theorem sample_plan_reads_back :
    Plan.sample.Unscored ∧ ReadsBack Plan.reader Plan.sample.toJson Plan.sample := by
  have unscored : Plan.sample.Unscored := by
    simp [Plan.Unscored, Cluster.Unscored, PlannedTest.Unscored, Plan.sample]
  exact ⟨unscored, records_read_back.2.2.2.2.2 _ unscored⟩

end TestImpact
