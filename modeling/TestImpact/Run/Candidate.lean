import TestImpact.Json.Shape

namespace TestImpact

structure Candidate where
  /-- What identifies the test in all tools. -/
  path : String
  sourcePath : Option String := none
  content : Option String := none
  clusterId : Option String := none
  partition : Option String := none
  deriving DecidableEq, Repr

namespace Candidate

open Json

def pathMember : Member String := .required "uniformPath" .text
def sourceMember : Member (Option String) := .optional "sourcePath" .text
def contentMember : Member (Option String) := .optional "content" .text
def clusterMember : Member (Option String) := .optional "clusterId" .text
def partitionMember : Member (Option String) := .optional "partition" .text

def shape : Shape Candidate where
  name := "ClusteredTestDetails"
  slots :=
    [pathMember.slot, sourceMember.slot, contentMember.slot, clusterMember.slot,
     partitionMember.slot]
  build bound := do
    let path ← pathMember.get bound
    let sourcePath ← sourceMember.get bound
    let content ← contentMember.get bound
    let clusterId ← clusterMember.get bound
    let partition ← partitionMember.get bound
    return { path, sourcePath, content, clusterId, partition }

def reader : Reader Candidate := shape.reader

def toJson (c : Candidate) : Value :=
  .object <|
    [("uniformPath", .text c.path)] ++
    Value.optional "sourcePath" .text c.sourcePath ++
    Value.optional "content" .text c.content ++
    Value.optional "clusterId" .text c.clusterId ++
    Value.optional "partition" .text c.partition

def defaultCluster : String := "default"

def cluster (c : Candidate) : String := c.clusterId.getD defaultCluster

end Candidate

end TestImpact
