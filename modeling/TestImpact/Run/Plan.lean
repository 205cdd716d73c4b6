import TestImpact.Run.Candidate

namespace TestImpact

open Json

structure PlannedTest where
  path : String
  selectionReason : Option String := none
  partition : Option String := none
  score : Option Decimal.Binary64 := none
  /-- In milliseconds. -/
  duration : Option UInt64 := none
  deriving DecidableEq, Repr

namespace PlannedTest

def pathMember : Member String := .required "uniformPath" .text
def reasonMember : Member (Option String) := .optional "selectionReason" .text
def partitionMember : Member (Option String) := .optional "partition" .text
def scoreMember : Member (Option Decimal.Binary64) := .optional "score" .real
def durationMember : Member (Option UInt64) := .optional "durationMs" .natural

def shape : Shape PlannedTest where
  name := "PrioritizableTest"
  slots :=
    [pathMember.slot, reasonMember.slot, partitionMember.slot, scoreMember.slot,
     durationMember.slot]
  build bound := do
    let path ← pathMember.get bound
    let selectionReason ← reasonMember.get bound
    let partition ← partitionMember.get bound
    let score ← scoreMember.get bound
    let duration ← durationMember.get bound
    return { path, selectionReason, partition, score, duration }

def reader : Reader PlannedTest := shape.reader

def toJson (t : PlannedTest) : Value :=
  .object <|
    [("uniformPath", .text t.path)] ++
    Value.optional "selectionReason" .text t.selectionReason ++
    Value.optional "partition" .text t.partition ++
    Value.optional "score" .real t.score ++
    Value.optional "durationMs" .natural t.duration

/-- A candidate as a planned test: nothing is known of why it runs and how long. -/
def ofCandidate (c : Candidate) : PlannedTest := { path := c.path, partition := c.partition }

end PlannedTest

structure Cluster where
  id : String
  tests : List PlannedTest
  deriving DecidableEq, Repr

namespace Cluster

def idMember : Member String := .required "clusterId" .text
def testsMember : Member (List PlannedTest) := .required "tests" (.list PlannedTest.reader)

def shape : Shape Cluster where
  name := "PrioritizableTestCluster"
  slots := [idMember.slot, testsMember.slot]
  build bound := do
    let id ← idMember.get bound
    let tests ← testsMember.get bound
    return { id, tests }

def reader : Reader Cluster := shape.reader

def toJson (c : Cluster) : Value :=
  .object [("clusterId", .text c.id), ("tests", .list (c.tests.map PlannedTest.toJson))]

/-- Adds a candidate to the cluster that it names, which is a new one at the end if need be. -/
def place (clusters : List Cluster) (c : Candidate) : List Cluster :=
  match clusters with
  | [] => [⟨c.cluster, [.ofCandidate c]⟩]
  | k :: ks =>
    if k.id = c.cluster then { k with tests := k.tests ++ [.ofCandidate c] } :: ks
    else k :: place ks c

def ofCandidates (candidates : List Candidate) : List Cluster := candidates.foldl place []

end Cluster

structure Plan where
  sessionId : String
  clusters : List Cluster
  deriving DecidableEq, Repr

namespace Plan

def sessionMember : Member String := .required "sessionId" .text
def clustersMember : Member (List Cluster) := .defaulting "clusters" (.list Cluster.reader) []

def shape : Shape Plan where
  name := "TestRunPlan"
  slots := [sessionMember.slot, clustersMember.slot]
  build bound := do
    let sessionId ← sessionMember.get bound
    let clusters ← clustersMember.get bound
    return { sessionId, clusters }

def reader : Reader Plan := shape.reader

def toJson (p : Plan) : Value :=
  .object [("sessionId", .text p.sessionId), ("clusters", .list (p.clusters.map Cluster.toJson))]

end Plan

structure Registration where
  /-- The tests to choose from; without them, those that the other side knows. -/
  available : Option (List Candidate)
  /-- Also tests that no change reaches. -/
  includeNonImpacted : Bool
  /-- Only changes behind this point count, in milliseconds of the epoch. -/
  baseline : Option Int
  deriving DecidableEq, Repr

end TestImpact
