import TestImpact.Action
import TestImpact.Artifact.Kind
import TestImpact.Artifact.Search
import TestImpact.Clock
import TestImpact.Collection.Agent
import TestImpact.Collection.Arena
import TestImpact.Collection.Collector
import TestImpact.Collection.Recorder
import TestImpact.Collection.Service
import TestImpact.Command.Arguments
import TestImpact.Command.Artifacts
import TestImpact.Command.Delivery
import TestImpact.Command.Dialogue
import TestImpact.Command.Failure
import TestImpact.Command.Run
import TestImpact.Coverage.Files
import TestImpact.Coverage.Lines
import TestImpact.Decimal.Binary64
import TestImpact.Decimal.Layout
import TestImpact.Decimal.Shortest
import TestImpact.Delivery.Directory
import TestImpact.Delivery.Fallback
import TestImpact.Delivery.Store
import TestImpact.Delivery.Upload
import TestImpact.Error
import TestImpact.Files.Cause
import TestImpact.Files.Disk
import TestImpact.Files.Path
import TestImpact.Files.Tree
import TestImpact.Json.Fault
import TestImpact.Json.Numeral
import TestImpact.Json.Reader
import TestImpact.Json.Shape
import TestImpact.Json.Token
import TestImpact.Json.Tree
import TestImpact.Json.Value
import TestImpact.Json.Writer
import TestImpact.Log
import TestImpact.Main
import TestImpact.Proofs.Action.Parallel
import TestImpact.Proofs.Artifact.Search
import TestImpact.Proofs.Collection.CompleteRun
import TestImpact.Proofs.Collection.DeliverOnce
import TestImpact.Proofs.Collection.Exchanges
import TestImpact.Proofs.Collection.ExecutionFiles
import TestImpact.Proofs.Collection.Isolation
import TestImpact.Proofs.Collection.Recorded
import TestImpact.Proofs.Collection.Responses
import TestImpact.Proofs.Collection.SecondAttempts
import TestImpact.Proofs.Collection.Site
import TestImpact.Proofs.Collection.TokenUse
import TestImpact.Proofs.Collection.Transport
import TestImpact.Proofs.Delivery.Cascade
import TestImpact.Proofs.Delivery.Secrecy
import TestImpact.Proofs.Delivery.Upload
import TestImpact.Proofs.Json.Members
import TestImpact.Proofs.Json.Records
import TestImpact.Proofs.Json.Scanning
import TestImpact.Proofs.Json.Trees
import TestImpact.Proofs.Run.Execution
import TestImpact.Proofs.Run.Records
import TestImpact.Proofs.Session.CallOrder
import TestImpact.Proofs.Text.Units
import TestImpact.Proofs.Web.Addresses
import TestImpact.Proofs.Web.Percent
import TestImpact.Proofs.Web.Segments
import TestImpact.Refusal
import TestImpact.Report.Format
import TestImpact.Retry
import TestImpact.Revision
import TestImpact.Run.Candidate
import TestImpact.Run.Execution
import TestImpact.Run.Plan
import TestImpact.Session
import TestImpact.Table
import TestImpact.Text.CodePoints
import TestImpact.Text.CombiningClass
import TestImpact.Text.Composite
import TestImpact.Text.Formless
import TestImpact.Text.Letters
import TestImpact.Text.Mark
import TestImpact.Text.NormalForm
import TestImpact.Text.Quoted
import TestImpact.Text.Unprintable
import TestImpact.Text.Utf8
import TestImpact.Web.Base64
import TestImpact.Web.BaseUrl
import TestImpact.Web.Client
import TestImpact.Web.Domain.Direction
import TestImpact.Web.Domain.Joining
import TestImpact.Web.Domain.Label
import TestImpact.Web.Domain.Respelling
import TestImpact.Web.Domain.Respelling.Ideographs
import TestImpact.Web.Domain.Respelling.Letters
import TestImpact.Web.Domain.Respelling.Signs
import TestImpact.Web.Domain.Spelling
import TestImpact.Web.Http
import TestImpact.Web.Lines
import TestImpact.Web.Message
import TestImpact.Web.Multipart
import TestImpact.Web.Percent
import TestImpact.Web.Punycode
import TestImpact.Web.Url.Basic
import TestImpact.Web.Url.Host
import TestImpact.Web.Url.Read
import TestImpact.Proofs.Delivery.FormParts
import TestImpact.Proofs.Collection.KeptExecutions
import TestImpact.Proofs.Run.Clustering
import TestImpact.Proofs.Session.Replies
import TestImpact.Proofs.Session.Beginning
import TestImpact.Proofs.Session.Settlement
import TestImpact.Proofs.Collection.Announcements
import TestImpact.Proofs.Coverage.Files
import TestImpact.Proofs.Revision
import TestImpact.Proofs.Artifact.Kinds
import TestImpact.Proofs.Artifact.Listing
import TestImpact.Proofs.Artifact.Checked
import TestImpact.Proofs.Artifact.Tour
import TestImpact.Proofs.Collection.Registrations
import TestImpact.Proofs.Files.Frames
import TestImpact.Proofs.Delivery.Filing
import TestImpact.Proofs.Collection.Allocations
import TestImpact.Proofs.Delivery.FileNames
import TestImpact.Proofs.Json.Grammar
import TestImpact.Proofs.Json.Brackets
import TestImpact.Proofs.Json.Rewriting
import TestImpact.Proofs.Run.Rewritten
import TestImpact.Proofs.Web.Host.IPv4
import TestImpact.Proofs.Web.Host.IPv6
import TestImpact.Proofs.Web.Host.Spelling
import TestImpact.Proofs.Web.Host.Domain
import TestImpact.Proofs.Web.Host.Known
import TestImpact.Proofs.Web.Settled
import TestImpact.Proofs.Web.Rereading
import TestImpact.Proofs.Web.BaseUrls
