import BulkProvision.NameMap
import BulkProvision.Text.Blank
import BulkProvision.Text.Word
import BulkProvision.Text.Quoted
import BulkProvision.Text.Reader
import BulkProvision.Text.Digits
import BulkProvision.Width
import BulkProvision.Binary64
import BulkProvision.Numeral
import BulkProvision.Json.Reader
import BulkProvision.Schema
import BulkProvision.Coercion
import BulkProvision.Store.Basic
import BulkProvision.Program
import BulkProvision.Settings.Basic
import BulkProvision.Store.Memory
import BulkProvision.Path.Expand
import BulkProvision.Provision
import BulkProvision.Bootstrap
import BulkProvision.Verify
import BulkProvision.Config.Value
import BulkProvision.Toml.Reader
import BulkProvision.Config.Layers
import BulkProvision.Settings.Decode
import BulkProvision.Document.Validator
import BulkProvision.Analytics.Report
import BulkProvision.Remote.Store
import BulkProvision.Document.Text
import BulkProvision.Analytics.Run
import BulkProvision.CommandLine
import BulkProvision.Main
import BulkProvision.Proofs.CallOrder
import BulkProvision.Proofs.Milestone
import BulkProvision.Proofs.Progress
import BulkProvision.Proofs.Walk
import BulkProvision.Proofs.Refresh
import BulkProvision.Proofs.Retention
import BulkProvision.Proofs.Repetition
import BulkProvision.Proofs.Validator
import BulkProvision.Proofs.Isolation
import BulkProvision.Proofs.Permutation
import BulkProvision.Proofs.Requests
import BulkProvision.Proofs.ClusterRun
import BulkProvision.Proofs.Partitioning
import BulkProvision.Proofs.Atomicity
import BulkProvision.Proofs.History
import BulkProvision.Proofs.Verification
import BulkProvision.Proofs.DryRun
import BulkProvision.Proofs.Persistence
import BulkProvision.Proofs.Interleaving
import BulkProvision.Proofs.UserRace
import BulkProvision.Proofs.Bootstrapping
import BulkProvision.Proofs.Session
import BulkProvision.Proofs.Inspection
import BulkProvision.Proofs.FirstRule
import BulkProvision.Proofs.TidyLayer
import BulkProvision.Proofs.Layering
import BulkProvision.Proofs.BaseDirectory
import BulkProvision.Proofs.RepeatedField
import BulkProvision.Proofs.FirstFault
import BulkProvision.Proofs.LoadFault
import BulkProvision.Proofs.Rounding
import BulkProvision.Proofs.Bytes
import BulkProvision.Proofs.Grammar
import BulkProvision.Proofs.LeadingFloat
import BulkProvision.Proofs.DigitFold
import BulkProvision.Proofs.LeadingInteger
import BulkProvision.Proofs.OversizedInteger
import BulkProvision.Proofs.NaNFree
import BulkProvision.Proofs.NaNCount
import BulkProvision.Proofs.NaNReport
import BulkProvision.Proofs.Guard
import BulkProvision.Proofs.Echo
import BulkProvision.Proofs.Extremes
import BulkProvision.Proofs.Acceptance
import BulkProvision.Proofs.Coherence
import BulkProvision.Proofs.References
import BulkProvision.Proofs.Expansion
