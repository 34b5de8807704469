import Cascade.Cache.Basic
import Cascade.Cache.Slots
import Cascade.Decimal.Binary64
import Cascade.Decimal.Shortest
import Cascade.Diagnostic
import Cascade.Dict
import Cascade.Digest.Sha256
import Cascade.Error
import Cascade.Json.Document
import Cascade.Json.Document.Parser
import Cascade.Json.Document.Scanner
import Cascade.Json.Number
import Cascade.Json.Printer
import Cascade.Json.Reader
import Cascade.Json.Value
import Cascade.Memory
import Cascade.Options
import Cascade.Pipeline
import Cascade.Project.Basic
import Cascade.Project.Toml
import Cascade.Reduction
import Cascade.Request
import Cascade.Stage.Registry
import Cascade.Suppression.Basic
import Cascade.Suppression.Directive
import Cascade.Suppression.Extract
import Cascade.Text.Basic
import Cascade.Text.Quoted
import Cascade.Text.Word
import Cascade.Toml.Datetime
import Cascade.Toml.Parser
import Cascade.Toml.Quoted
import Cascade.Toml.Scalar
import Cascade.Toml.Table
import Cascade.Toml.Value
import Cascade.Tree.Canonical
import Cascade.Tree.Codec
import Cascade.Tree.Kind
import Cascade.Tree.Node
import Cascade.Tree.Sample
import Cascade.Tree.Span
import Cascade.Tree.Walk
import Cascade.Visitor.Basic
import Cascade.Visitor.Catalog
import Cascade.Visitor.Ledger
import Cascade.Visitor.Sample
import Cascade.Proofs.StructuralReduction
import Cascade.Proofs.HandlerCalls
import Cascade.Proofs.MemoryView
import Cascade.Proofs.Resolution
import Cascade.Proofs.Resumption
import Cascade.Proofs.History
import Cascade.Proofs.ChainClosure
import Cascade.Proofs.Stateless
import Cascade.Proofs.CacheTransparency
import Cascade.Proofs.JsonText
import Cascade.Proofs.ValueText
import Cascade.Proofs.CanonicalText
import Cascade.Proofs.CanonicalBytes
import Cascade.Proofs.CacheKeys
import Cascade.Proofs.CacheMap
import Cascade.Proofs.ResolutionEffect
import Cascade.Proofs.Chronicle
import Cascade.Proofs.PipelineEvents
import Cascade.Proofs.SingleComputation
import Cascade.Proofs.Reports
import Cascade.Proofs.Courses
import Cascade.Proofs.Accumulation
import Cascade.Proofs.Lookups
import Cascade.Proofs.WholeChain
import Cascade.Proofs.Invalidation
import Cascade.Proofs.BatchOrder
import Cascade.Proofs.EqualContent
import Cascade.Cache.Shared
import Cascade.Proofs.FusedPasses
import Cascade.Proofs.Derivation
import Cascade.Proofs.RootShape
import Cascade.Proofs.InFlight
import Cascade.Proofs.Traffic
import Cascade.Proofs.Sweeps
import Cascade.Proofs.Lineage
import Cascade.Proofs.Undisturbed
import Cascade.Proofs.Staleness
import Cascade.Proofs.Transcript
import Cascade.Proofs.ReadOnlyVisitors
import Cascade.Proofs.ReadBack
import Cascade.Proofs.DataReadBack
import Cascade.Proofs.TrimmedText
import Cascade.Proofs.DirectiveYields
import Cascade.Proofs.Patterns
import Cascade.Proofs.DirectiveForms
import Cascade.Proofs.DirectiveClasses
import Cascade.Proofs.WellFormedDirectives
import Cascade.Proofs.SweepCount
import Cascade.Proofs.FirstMentions
import Cascade.Proofs.Tours
import Cascade.Proofs.VisitOrder
import Cascade.Proofs.VisitTotals
import Cascade.Proofs.FirstFailure
import Cascade.Proofs.Flagging
import Cascade.Proofs.Scopes
import Cascade.Proofs.BoundedGrowth
import Cascade.Proofs.KeptSpans
import Cascade.Proofs.ValueEquality
import Cascade.Proofs.TreeEquality
import Cascade.Proofs.TreeCopies
import Cascade.Proofs.DepthFirst
import Cascade.Proofs.SampleTrees
import Cascade.Proofs.BlueprintChoices
import Cascade.Proofs.CheckedIndices
import Cascade.Proofs.AlignedCaches
