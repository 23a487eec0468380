import SqlPipeline.Postgres.ScriptedServer
import SqlPipeline.Postgres.Transaction
import SqlPipeline.Proofs.Alignment
import SqlPipeline.Proofs.Boolean.Clause
import SqlPipeline.Proofs.Postgres.Abandonment
import SqlPipeline.Proofs.Postgres.Commitment
import SqlPipeline.Proofs.Postgres.Control
import SqlPipeline.Proofs.Transaction.Atomicity
import SqlPipeline.Proofs.Transaction.Lifecycle
import SqlPipeline.Proofs.Transaction.Walk
import SqlPipeline.Session.Scripted
import SqlPipeline.Transaction.Description
import SqlPipeline.Transaction.Pipeline
import SqlPipeline.Proofs.Deletion
import SqlPipeline.Proofs.Interference
import SqlPipeline.Proofs.Transaction.Agreement
import SqlPipeline.Proofs.Document.Columns
import SqlPipeline.Proofs.Document.Marshaling
import SqlPipeline.Proofs.Column.Distinct
import SqlPipeline.Proofs.Column.Allowed
import SqlPipeline.Proofs.Reading.Cursor
import SqlPipeline.Proofs.Reading.Rows
import SqlPipeline.Proofs.Reading.Window
import SqlPipeline.Proofs.Reading.Source
import SqlPipeline.Proofs.Identifier
import SqlPipeline.Proofs.Session.Terminal
import SqlPipeline.Proofs.Document.Scalars
import SqlPipeline.Proofs.Postgres.Elements
import SqlPipeline.Proofs.Reading.Projection
import SqlPipeline.Proofs.Column.Order
import SqlPipeline.Proofs.Postgres.Interval.Text
import SqlPipeline.Proofs.Postgres.Interval.Overflow
