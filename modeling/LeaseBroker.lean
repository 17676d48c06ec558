import LeaseBroker.Bench
import LeaseBroker.Broker.AccessLists
import LeaseBroker.Broker.Basic
import LeaseBroker.Broker.DeviceClasses
import LeaseBroker.Broker.Leasing
import LeaseBroker.Broker.Ledger
import LeaseBroker.Broker.Notice
import LeaseBroker.Broker.Reconcile
import LeaseBroker.Broker.Refusal
import LeaseBroker.Broker.RescanLoop
import LeaseBroker.Broker.Waiting
import LeaseBroker.Collections.SortedMap
import LeaseBroker.CommandLine.Arguments
import LeaseBroker.CommandLine.Command
import LeaseBroker.CommandLine.Folder
import LeaseBroker.CommandLine.Run
import LeaseBroker.Criteria.Basic
import LeaseBroker.Criteria.Field
import LeaseBroker.Device.Capacity
import LeaseBroker.Device.Info
import LeaseBroker.Document.Basic
import LeaseBroker.Document.Fault
import LeaseBroker.Document.Reading
import LeaseBroker.Json.Basic
import LeaseBroker.Json.Printer
import LeaseBroker.Json.Reader
import LeaseBroker.Main
import LeaseBroker.Number.Basic
import LeaseBroker.Number.Double
import LeaseBroker.Number.Layout
import LeaseBroker.Pattern.Basic
import LeaseBroker.Pattern.Bracket
import LeaseBroker.Pattern.Builder
import LeaseBroker.Pattern.Escape
import LeaseBroker.Pattern.Flags
import LeaseBroker.Pattern.Size
import LeaseBroker.Pattern.Token
import LeaseBroker.Proofs.AccessHistories
import LeaseBroker.Proofs.Accounting
import LeaseBroker.Proofs.Acquires
import LeaseBroker.Proofs.Additions
import LeaseBroker.Proofs.Adoptions
import LeaseBroker.Proofs.Anchoring
import LeaseBroker.Proofs.Asking
import LeaseBroker.Proofs.AuditLog
import LeaseBroker.Proofs.Building
import LeaseBroker.Proofs.ByteOrder
import LeaseBroker.Proofs.CapacityBound
import LeaseBroker.Proofs.CapacityCoding
import LeaseBroker.Proofs.Changes
import LeaseBroker.Proofs.Configured
import LeaseBroker.Proofs.Conjunction
import LeaseBroker.Proofs.Consistency
import LeaseBroker.Proofs.CriteriaPairs
import LeaseBroker.Proofs.Custody
import LeaseBroker.Proofs.Cutting
import LeaseBroker.Proofs.Daemon
import LeaseBroker.Proofs.DistinctNames
import LeaseBroker.Proofs.DocumentWords
import LeaseBroker.Proofs.FaultHistories
import LeaseBroker.Proofs.Filtering
import LeaseBroker.Proofs.Forgetting
import LeaseBroker.Proofs.Holders
import LeaseBroker.Proofs.Images
import LeaseBroker.Proofs.Indexes
import LeaseBroker.Proofs.Isolation
import LeaseBroker.Proofs.JsonPrinting
import LeaseBroker.Proofs.JsonText
import LeaseBroker.Proofs.Labelling
import LeaseBroker.Proofs.LeaseOutcomes
import LeaseBroker.Proofs.LedgerCounts
import LeaseBroker.Proofs.LedgerHistories
import LeaseBroker.Proofs.LinkAdoption
import LeaseBroker.Proofs.LinkDirectories
import LeaseBroker.Proofs.LinkNames
import LeaseBroker.Proofs.LoadedSettings
import LeaseBroker.Proofs.LogSettings
import LeaseBroker.Proofs.Matching
import LeaseBroker.Proofs.Overriding
import LeaseBroker.Proofs.Ownership
import LeaseBroker.Proofs.PartReaders
import LeaseBroker.Proofs.PatternReaders
import LeaseBroker.Proofs.Polling
import LeaseBroker.Proofs.Rebuilding
import LeaseBroker.Proofs.ReconcileChanges
import LeaseBroker.Proofs.Reconciliation
import LeaseBroker.Proofs.RecordFields
import LeaseBroker.Proofs.Refusals
import LeaseBroker.Proofs.ReleaseOutcomes
import LeaseBroker.Proofs.Releases
import LeaseBroker.Proofs.Reliability
import LeaseBroker.Proofs.Removal
import LeaseBroker.Proofs.Repetition
import LeaseBroker.Proofs.Reports
import LeaseBroker.Proofs.RescanLoop
import LeaseBroker.Proofs.RoundTrip
import LeaseBroker.Proofs.Run
import LeaseBroker.Proofs.ScanOwners
import LeaseBroker.Proofs.SharedFaults
import LeaseBroker.Proofs.SmallLetters
import LeaseBroker.Proofs.SortedMap
import LeaseBroker.Proofs.TomlDocuments
import LeaseBroker.Proofs.ValidPatterns
import LeaseBroker.Proofs.Views
import LeaseBroker.Proofs.Wakeups
import LeaseBroker.Scripted.Family
import LeaseBroker.Serial.Directory
import LeaseBroker.Serial.Family
import LeaseBroker.Serial.LinkName
import LeaseBroker.Settings.Basic
import LeaseBroker.Settings.Build
import LeaseBroker.Settings.Check
import LeaseBroker.Settings.Layers
import LeaseBroker.Settings.Logging
import LeaseBroker.Settings.Override
import LeaseBroker.Settings.Reading
import LeaseBroker.Settings.Writing
import LeaseBroker.Simulated.Family
import LeaseBroker.Simulated.FaultPlan
import LeaseBroker.Text.CharSet
import LeaseBroker.Text.Numeral
import LeaseBroker.Text.Quoted
import LeaseBroker.Text.Split
import LeaseBroker.Text.Unicode.Age
import LeaseBroker.Text.Unicode.BinaryProperty
import LeaseBroker.Text.Unicode.CaseFolding
import LeaseBroker.Text.Unicode.GeneralCategory
import LeaseBroker.Text.Unicode.LowerCase
import LeaseBroker.Text.Unicode.Property
import LeaseBroker.Text.Unicode.Script
import LeaseBroker.Text.Unicode.ScriptExtension
import LeaseBroker.Text.Unicode.Segmentation
import LeaseBroker.Text.Unicode.Table
import LeaseBroker.Toml.Reader
import LeaseBroker.Toml.Scalar
import LeaseBroker.Toml.Table
import LeaseBroker.Toml.Text
