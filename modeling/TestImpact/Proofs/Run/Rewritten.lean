import TestImpact.Proofs.Json.Rewriting
import TestImpact.Proofs.Run.Records

namespace TestImpact

open Json

namespace Candidate

def layout : Layout := .record (shape.slots.map Slot.name) fun _ => .plain

def fields (c : Candidate) : List Field :=
  [⟨pathMember, c.path, some (.text c.path)⟩,
   ⟨sourceMember, c.sourcePath, c.sourcePath.map .text⟩,
   ⟨contentMember, c.content, c.content.map .text⟩,
   ⟨clusterMember, c.clusterId, c.clusterId.map .text⟩,
   ⟨partitionMember, c.partition, c.partition.map .text⟩]

theorem written_fields (c : Candidate) : c.toJson = .object (c.fields.flatMap Field.written) := by
  simp only [toJson, fields, List.flatMap_cons, List.flatMap_nil, Field.written_given,
    Field.written_optional, List.append_assoc, List.append_nil]
  rfl

theorem tolerates (c : Candidate) : Tolerates layout reader c.toJson c := by
  rw [written_fields]
  refine Tolerates.record shape c.fields rfl (by decide) ?_ fun bound reads => ?_
  · simp only [fields, List.forall_mem_cons]
    exact ⟨.given (.plain (.text c.path)), .optional .text nofun _, .optional .text nofun _,
      .optional .text nofun _, .optional .text nofun _, nofun⟩
  · simp only [fields, List.forall_mem_cons] at reads
    obtain ⟨path, sourcePath, content, clusterId, partition, -⟩ := reads
    simp [shape, path, sourcePath, content, clusterId, partition]

end Candidate

namespace Execution

def layout : Layout := .record (shape.slots.map Slot.name) fun _ => .plain

def fields (e : Execution) : List Field :=
  [⟨pathMember, e.path, some (.text e.path)⟩,
   ⟨durationMember, e.duration, some (.natural e.duration)⟩,
   ⟨statusMember, e.status, some e.status.toJson⟩,
   ⟨messageMember, e.message, e.message.map .text⟩]

theorem written_fields (e : Execution) : e.toJson = .object (e.fields.flatMap Field.written) := by
  simp only [toJson, fields, List.flatMap_cons, List.flatMap_nil, Field.written_given,
    Field.written_optional, List.append_nil]
  rfl

theorem tolerates (e : Execution) : Tolerates layout reader e.toJson e := by
  rw [written_fields]
  refine Tolerates.record shape e.fields rfl (by decide) ?_ fun bound reads => ?_
  · simp only [fields, List.forall_mem_cons]
    exact ⟨.given (.plain (.text e.path)), .given (.plain (.natural e.duration)),
      .given (.plain e.status.reads), .optional .text nofun _, nofun⟩
  · simp only [fields, List.forall_mem_cons] at reads
    obtain ⟨path, duration, status, message, -⟩ := reads
    simp [shape, path, duration, status, message]

end Execution

namespace Attribution

def layout : Layout := .record (shape.slots.map Slot.name) fun _ => .plain

def fields (a : Attribution) : List Field :=
  [⟨pathMember, a.path, some (.text a.path)⟩,
   ⟨statusMember, a.status, a.status.map Status.toJson⟩,
   ⟨messageMember, a.message, a.message.map .text⟩,
   ⟨coverageMember, a.coverage, some (.text a.coverage)⟩]

theorem written_fields (a : Attribution) : a.toJson = .object (a.fields.flatMap Field.written) := by
  simp only [toJson, fields, List.flatMap_cons, List.flatMap_nil, Field.written_given,
    Field.written_optional, List.append_assoc, List.append_nil]
  rfl

theorem tolerates (a : Attribution) : Tolerates layout reader a.toJson a := by
  rw [written_fields]
  refine Tolerates.record shape a.fields rfl (by decide) ?_ fun bound reads => ?_
  · simp only [fields, List.forall_mem_cons]
    exact ⟨.given (.plain (.text a.path)), .optional Status.reads nofun _,
      .optional .text nofun _, .given (.plain (.text a.coverage)), nofun⟩
  · simp only [fields, List.forall_mem_cons] at reads
    obtain ⟨path, status, message, coverage, -⟩ := reads
    simp [shape, path, status, message, coverage]

end Attribution

namespace PlannedTest

def layout : Layout := .record (shape.slots.map Slot.name) fun _ => .plain

def fields (t : PlannedTest) : List Field :=
  [⟨pathMember, t.path, some (.text t.path)⟩,
   ⟨reasonMember, t.selectionReason, t.selectionReason.map .text⟩,
   ⟨partitionMember, t.partition, t.partition.map .text⟩,
   ⟨scoreMember, none, none⟩,
   ⟨durationMember, t.duration, t.duration.map .natural⟩]

theorem written_fields {t : PlannedTest} (unscored : t.Unscored) :
    t.toJson = .object (t.fields.flatMap Field.written) := by
  rw [Unscored] at unscored
  simp only [toJson, unscored, fields, List.flatMap_cons, List.flatMap_nil, Field.written_given,
    Field.written_optional, List.append_assoc, List.append_nil]
  rfl

theorem tolerates {t : PlannedTest} (unscored : t.Unscored) :
    Tolerates layout reader t.toJson t := by
  rw [written_fields unscored]
  refine Tolerates.record shape t.fields rfl (by decide) ?_ fun bound reads => ?_
  · simp only [fields, List.forall_mem_cons]
    exact ⟨.given (.plain (.text t.path)), .optional .text nofun _, .optional .text nofun _,
      ⟨nofun, fun _ => ⟨rfl, rfl⟩⟩, .optional .natural nofun _, nofun⟩
  · simp only [fields, List.forall_mem_cons] at reads
    obtain ⟨path, selectionReason, partition, score, duration, -⟩ := reads
    rw [← unscored] at score
    simp [shape, path, selectionReason, partition, score, duration]

end PlannedTest

namespace Cluster

def layout : Layout :=
  .record (shape.slots.map Slot.name) fun name =>
    if name = testsMember.name then .list PlannedTest.layout else .plain

def fields (c : Cluster) : List Field :=
  [⟨idMember, c.id, some (.text c.id)⟩,
   ⟨testsMember, c.tests, some (.list (c.tests.map PlannedTest.toJson))⟩]

theorem tolerates {c : Cluster} (unscored : c.Unscored) : Tolerates layout reader c.toJson c := by
  refine Tolerates.record shape c.fields rfl (by decide) ?_ fun bound reads => ?_
  · simp only [fields, List.forall_mem_cons]
    exact ⟨.given (.plain (.text c.id)),
      .given (.list fun t member => PlannedTest.tolerates (unscored t member)), nofun⟩
  · simp only [fields, List.forall_mem_cons] at reads
    obtain ⟨id, tests, -⟩ := reads
    simp [shape, id, tests]

end Cluster

namespace Plan

def layout : Layout :=
  .record (shape.slots.map Slot.name) fun name =>
    if name = clustersMember.name then .list Cluster.layout else .plain

def fields (p : Plan) : List Field :=
  [⟨sessionMember, p.sessionId, some (.text p.sessionId)⟩,
   ⟨clustersMember, p.clusters, some (.list (p.clusters.map Cluster.toJson))⟩]

theorem tolerates {p : Plan} (unscored : p.Unscored) : Tolerates layout reader p.toJson p := by
  refine Tolerates.record shape p.fields rfl (by decide) ?_ fun bound reads => ?_
  · simp only [fields, List.forall_mem_cons]
    exact ⟨.given (.plain (.text p.sessionId)),
      .given (.list fun c member => Cluster.tolerates (unscored c member)), nofun⟩
  · simp only [fields, List.forall_mem_cons] at reads
    obtain ⟨sessionId, clusters, -⟩ := reads
    simp [shape, sessionId, clusters]

end Plan

/-- A record is read from every rewriting of its encoding: with its members and those of the records
    in it in any order, with nulls for those left out, with other members of any kind, and with
    white space between all tokens. -/
theorem rewritten_records_decode (text : Padded) :
    (∀ c : Candidate, Candidate.layout.Rewrites c.toJson text.inner →
      DecodesAs Candidate.reader (String.ofList text.chars) c) ∧
    (∀ e : Execution, Execution.layout.Rewrites e.toJson text.inner →
      DecodesAs Execution.reader (String.ofList text.chars) e) ∧
    (∀ a : Attribution, Attribution.layout.Rewrites a.toJson text.inner →
      DecodesAs Attribution.reader (String.ofList text.chars) a) ∧
    (∀ p : Plan, p.Unscored → Plan.layout.Rewrites p.toJson text.inner →
      DecodesAs Plan.reader (String.ofList text.chars) p) :=
  ⟨fun c rewritten => decodesAs_of_read (c.tolerates.read rewritten),
    fun e rewritten => decodesAs_of_read (e.tolerates.read rewritten),
    fun a rewritten => decodesAs_of_read (a.tolerates.read rewritten),
    fun _ unscored rewritten => decodesAs_of_read ((Plan.tolerates unscored).read rewritten)⟩

namespace Plan

def small : Plan := { sessionId := "s", clusters := [⟨"c", [{ path := "p" }]⟩] }

def strange : List Char :=
  listChars .empty
    [.bare ['-', '0', '.', '5', 'E', '+', '4', '0', '0'],
     .bare ['"', '\\', 'u', 'D', '8', '0', '0', '"']]

theorem strange_wellFormed : WellFormed strange := by
  have digits : IsDigits ['4', '0', '0'] ∧ IsDigits ['5'] ∧ IsDigits ['0'] := by decide
  have number : IsNumber ['-', '0', '.', '5', 'E', '+', '4', '0', '0'] :=
    .negative (.parts ⟨digits.2.2, fun _ => rfl⟩ (.digits digits.2.1)
      (.digits (.inr rfl) (.inr (.inl rfl)) digits.1))
  have half : IsText ['"', '\\', 'u', 'D', '8', '0', '0', '"'] [.unit 0xD800] :=
    .quoted (.unit (by decide) .quote)
  refine .list .empty fun p member => ?_
  simp only [List.mem_cons, List.not_mem_nil, or_false] at member
  rcases member with rfl | rfl
  · exact .number number
  · exact .text half

def smallTest : List Entry :=
  [.own "score" (.bare ['n', 'u', 'l', 'l']), .own "uniformPath" (.bare (textChars "p"))]

def smallTestText : List Char := objectChars .empty (smallTest.map Entry.toPair)

def smallCluster : List Entry :=
  [.own "tests" (.bare (listChars .empty [.bare smallTestText])),
   .own "clusterId" ⟨⟨[' '], List.forall_mem_singleton.mpr rfl⟩, textChars "c", .empty⟩]

def smallClusterText : List Char := objectChars .empty (smallCluster.map Entry.toPair)

def smallPlan : List Entry :=
  [.own "clusters" (.bare (listChars .empty [.bare smallClusterText])),
   .own "tests" (.bare strange), .own "sessionId" (.bare (textChars "s"))]

def smallText : Padded :=
  ⟨.empty, objectChars .empty (smallPlan.map Entry.toPair),
    ⟨['\n'], List.forall_mem_singleton.mpr rfl⟩⟩

theorem small_rewritten : layout.Rewrites small.toJson smallText.inner := by
  have test : PlannedTest.layout.Rewrites ({ path := "p" } : PlannedTest).toJson smallTestText :=
    ⟨.empty,
      { kept := [.own "uniformPath" (.bare (textChars "p"))]
        omitted := [.own "score" (.bare ['n', 'u', 'l', 'l'])]
        added := []
        entries := smallTest
        parts := .swap _ _ _
        keeps := .cons ⟨rfl, rfl⟩ .nil
        once := List.nodup_singleton _
        omits := List.forall_mem_singleton.mpr ⟨by decide, by decide, rfl⟩
        adds := nofun }, rfl⟩
  have cluster :
      Cluster.layout.Rewrites (Cluster.mk "c" [{ path := "p" }]).toJson smallClusterText :=
    ⟨.empty,
      { kept := smallCluster.reverse
        omitted := []
        added := []
        entries := smallCluster
        parts := .swap _ _ _
        keeps := .cons ⟨rfl, rfl⟩ (.cons ⟨rfl, .empty, _, .cons test .nil, rfl⟩ .nil)
        once := .nil
        omits := nofun
        adds := nofun }, rfl⟩
  exact ⟨.empty,
    { kept := [.own "sessionId" (.bare (textChars "s")),
        .own "clusters" (.bare (listChars .empty [.bare smallClusterText]))]
      omitted := []
      added := [.own "tests" (.bare strange)]
      entries := smallPlan
      parts := List.perm_append_singleton _ [_, _]
      keeps := .cons ⟨rfl, rfl⟩ (.cons ⟨rfl, .empty, _, .cons cluster .nil, rfl⟩ .nil)
      once := .nil
      omits := nofun
      adds := List.forall_mem_singleton.mpr ⟨by decide, strange_wellFormed⟩ }, rfl⟩

theorem small_rewritten_decodes :
    String.ofList smallText.chars =
      "\x7b\"clusters\":[\x7b\"tests\":[\x7b\"score\":null,\"uniformPath\":\"p\"\x7d]," ++
        "\"clusterId\": \"c\"\x7d],\"tests\":[-0.5E+400,\"\\uD800\"],\"sessionId\":\"s\"\x7d\n" ∧
      small.Unscored ∧ layout.Rewrites small.toJson smallText.inner ∧
      DecodesAs reader (String.ofList smallText.chars) small := by
  have unscored : small.Unscored := by
    simp [Unscored, Cluster.Unscored, PlannedTest.Unscored, small]
  exact ⟨by decide +kernel, unscored, small_rewritten,
    (rewritten_records_decode smallText).2.2.2 small unscored small_rewritten⟩

end Plan

end TestImpact
