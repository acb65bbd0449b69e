import ExportLedger.Text.Decimal
import ExportLedger.Text.Blank
import ExportLedger.Text.Lowercase
import ExportLedger.Text.Quoted
import ExportLedger.Text.Substitution
import ExportLedger.Text.Utf8
import ExportLedger.Digest.Md5
import ExportLedger.Json.Printer
import ExportLedger.Json.Fields
import ExportLedger.Calendar.Rfc3339
import ExportLedger.Record.Decoding
import ExportLedger.Record.Schema
import ExportLedger.Family
import ExportLedger.Store.NameMap
import ExportLedger.Store.Memory
import ExportLedger.Store.Share
import ExportLedger.Store.Bucket
import ExportLedger.Store.Lagging
import ExportLedger.Export.Cycle
import ExportLedger.Retention.Housekeeping
import ExportLedger.Config.Environment
import ExportLedger.Config.Document
import ExportLedger.Logging.Install
import ExportLedger.Store.Tree
import ExportLedger.CommandLine
import ExportLedger.App
import ExportLedger.Main
import ExportLedger.Logging.Pattern
import ExportLedger.Proofs.Calendar.DayNumber
import ExportLedger.Proofs.Calendar.Rfc3339
import ExportLedger.Proofs.Json.RoundTrip
import ExportLedger.Proofs.Record.RoundTrip
import ExportLedger.Proofs.Catalog
import ExportLedger.Proofs.Export.Allocation
import ExportLedger.Proofs.Export.Counter
import ExportLedger.Proofs.Retention.CurrentRecord
import ExportLedger.Proofs.Retention.ConfirmedFile
import ExportLedger.Proofs.Export.ResultName
import ExportLedger.Proofs.Retention.Prune
import ExportLedger.Proofs.Export.LostFile
import ExportLedger.Proofs.Export.Superseding
import ExportLedger.Proofs.Export.Refinding
import ExportLedger.Proofs.Store.Directory
import ExportLedger.Proofs.Export.Footprint
import ExportLedger.Proofs.Export.DistinctNames
import ExportLedger.Proofs.Export.Attempts
import ExportLedger.Proofs.Export.DailyNumbers
import ExportLedger.Proofs.Store.Truthful
import ExportLedger.Proofs.Export.Aborted
import ExportLedger.Proofs.Retention.History
import ExportLedger.Proofs.Export.Isolation
import ExportLedger.Proofs.Retention.Concurrent
import ExportLedger.Proofs.Retention.Reached
import ExportLedger.Proofs.Retention.Superseded
import ExportLedger.Proofs.Retention.Resumption
import ExportLedger.Proofs.Retention.Interleaving
import ExportLedger.Proofs.Catalog.Neighbours
import ExportLedger.Proofs.Export.MarkedFile
import ExportLedger.Proofs.Export.LookupFailure
import ExportLedger.Proofs.Store.Mirror
import ExportLedger.Proofs.Record.Agreement
import ExportLedger.Proofs.Store.Underway
import ExportLedger.Proofs.Commands
import ExportLedger.Proofs.Export.Filling
import ExportLedger.Proofs.Naming.Newest
import ExportLedger.Proofs.Calendar.SameDay
import ExportLedger.Proofs.Record.Conformance
import ExportLedger.Proofs.Record.DailyNumber
import ExportLedger.Proofs.Naming.FileName
import ExportLedger.Proofs.Config.RoundTrip
import ExportLedger.Proofs.Retention.Schedule
