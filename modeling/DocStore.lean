import DocStore.Json.Reader
import DocStore.Json.Printer
import DocStore.Schema.Validation
import DocStore.Filter.Query
import DocStore.Query.Match
import DocStore.Update
import DocStore.Pipeline.Basic
import DocStore.Aggregation.Stages
import DocStore.Store.Connection
import DocStore.Response
import DocStore.Client.Session
import DocStore.Proofs.Fallible
import DocStore.Proofs.Binary64.Rounding
import DocStore.Proofs.Binary64.Monotone
import DocStore.Proofs.Text.Numerals
import DocStore.Proofs.Timestamp.ReadBack
import DocStore.Proofs.Timestamp.Calendar
import DocStore.Proofs.Timestamp.TextOrder
import DocStore.Proofs.Timestamp.Spelling
import DocStore.Proofs.Json.Fields
import DocStore.Proofs.Json.Decoding
import DocStore.Proofs.Json.Paths
import DocStore.Proofs.Json.Obstruction
import DocStore.Proofs.Json.Equality
import DocStore.Proofs.Json.Order
import DocStore.Proofs.Json.Places
import DocStore.Proofs.Json.Changes
import DocStore.Proofs.Json.Apart
import DocStore.Proofs.Json.InPlace
import DocStore.Proofs.Json.ChangeLists
import DocStore.Proofs.Schema.Registered
import DocStore.Proofs.Schema.Forms
import DocStore.Proofs.Schema.WholeNumbers
import DocStore.Proofs.Schema.NormalForm
import DocStore.Proofs.Schema.Conformance
import DocStore.Proofs.Schema.Revalidation
import DocStore.Proofs.Schema.SerialForm
import DocStore.Proofs.Schema.PatternCache
import DocStore.Proofs.Query.Answers
import DocStore.Proofs.Regex.Literal
import DocStore.Proofs.Filter.Meaning
import DocStore.Proofs.Filter.Operands
import DocStore.Proofs.Filter.Agreement
import DocStore.Proofs.Filter.Keys
import DocStore.Proofs.Filter.Retrieval
import DocStore.Proofs.Filter.Chronology
import DocStore.Proofs.Aggregation.Running
import DocStore.Proofs.Aggregation.Projecting
import DocStore.Proofs.Aggregation.Sorting
import DocStore.Proofs.Aggregation.StableSort
import DocStore.Proofs.Aggregation.AnySort
import DocStore.Proofs.Aggregation.Grouping
import DocStore.Proofs.Aggregation.OnePass
import DocStore.Proofs.Aggregation.Partition
import DocStore.Proofs.Aggregation.Summation
import DocStore.Proofs.Aggregation.Joining
import DocStore.Proofs.Pipeline.Scope
import DocStore.Proofs.Pipeline.Origins
import DocStore.Proofs.Pipeline.Progress
import DocStore.Proofs.Pipeline.Aliases
import DocStore.Proofs.Update.Edits
import DocStore.Proofs.Update.Identifier
import DocStore.Proofs.Update.Declared
import DocStore.Proofs.Update.Departures
import DocStore.Proofs.Update.Independence
import DocStore.Proofs.Update.ListPushes
import DocStore.Proofs.Store.Documents
import DocStore.Proofs.Store.Accounting
import DocStore.Proofs.Store.Identity
import DocStore.Proofs.Aggregation.Regrouping
import DocStore.Proofs.Store.Activity
import DocStore.Proofs.Store.ChangeStream
import DocStore.Proofs.Store.FailingReads
import DocStore.Proofs.Store.Journal
import DocStore.Proofs.Store.Timeless
import DocStore.Proofs.Store.ReadPaths
import DocStore.Proofs.Store.Selection
import DocStore.Proofs.Store.BatchInsert
import DocStore.Proofs.Store.DistinctValues
import DocStore.Proofs.Store.ConnectionCalls
import DocStore.Proofs.Store.Beside
import DocStore.Proofs.Store.Network
import DocStore.Proofs.Store.Isolation
import DocStore.Proofs.Command.WireForm
import DocStore.Proofs.Client.PoolTraffic
import DocStore.Proofs.Client.Conservation
import DocStore.Proofs.Client.Lockstep
import DocStore.Proofs.Client.Mirror
import DocStore.Proofs.Client.Reading
import DocStore.Proofs.Client.ModeExchange
import DocStore.Proofs.Client.Ownership
import DocStore.Proofs.Client.Custody
import DocStore.Proofs.Client.FieldLists
import DocStore.Proofs.Client.Slots
import DocStore.Proofs.Client.AbandonedCalls
import DocStore.Proofs.Client.LateOpening
import DocStore.Proofs.Client.Timely
import DocStore.Proofs.Client.Draining
import DocStore.Proofs.Client.Deadlines
