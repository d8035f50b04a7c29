import LogSearch.Api
import LogSearch.Ingestion.Service
import LogSearch.Search.Executor
import LogSearch.Search.Client
import LogSearch.Validation.Lax
import LogSearch.Settings.Sections
import LogSearch.Settings.Load
import LogSearch.Ingestion.Collector
import LogSearch.Ingestion.Files
import LogSearch.Document.Line
import LogSearch.Ingestion.Outbox
import LogSearch.Json.Reader
import LogSearch.Json.Writer
import LogSearch.Json.Display
import LogSearch.Number.Shortest
import LogSearch.Query.Compile
import LogSearch.Text.Printable
import LogSearch.Time.Timestamp
import LogSearch.Proofs.Ingestion.Accounts
import LogSearch.Proofs.Query.Grammar
import LogSearch.Proofs.Query.Parsing
import LogSearch.Proofs.Text.Decimal
import LogSearch.Proofs.Time.Calendar
import LogSearch.Proofs.Time.Written
import LogSearch.Proofs.Except
import LogSearch.Proofs.Query.NormalForm
import LogSearch.Proofs.Ingestion.Awaiting
import LogSearch.Proofs.Query.Readback
import LogSearch.Proofs.Ingestion.OnePass
import LogSearch.Proofs.Ingestion.Growing
import LogSearch.Proofs.Query.Lexing
import LogSearch.Proofs.Query.Stored
import LogSearch.Proofs.Ingestion.Delivery
import LogSearch.Proofs.Ingestion.Books
import LogSearch.Proofs.Json.Written
import LogSearch.Proofs.Search.Endings
import LogSearch.Proofs.Time.Range
import LogSearch.Proofs.Query.Faults
import LogSearch.Proofs.Document.Dates
import LogSearch.Proofs.Ingestion.Stops
import LogSearch.Proofs.Search.Found
import LogSearch.Proofs.Query.Composing
import LogSearch.Proofs.Ingestion.Rotation
import LogSearch.Proofs.Ingestion.Background
import LogSearch.Proofs.Ingestion.Scripted
import LogSearch.Proofs.Ingestion.Intake
import LogSearch.Proofs.Ingestion.Handing
import LogSearch.Proofs.Search.Requests
import LogSearch.Proofs.Api.Asking
import LogSearch.Proofs.Api.Shutdown
import LogSearch.Proofs.Query.Viable
import LogSearch.Proofs.Query.Translation
import LogSearch.Proofs.Time.Agreement
import LogSearch.Proofs.Ingestion.Uncountable
import LogSearch.Proofs.Document.Layouts
import LogSearch.Proofs.Search.Sessions
import LogSearch.Proofs.Search.Exchanges
import LogSearch.Proofs.Query.Tiling
import LogSearch.Proofs.Query.Layout
import LogSearch.Proofs.Settings.Host
import LogSearch.Proofs.Ingestion.Honoured
import LogSearch.Proofs.Ingestion.Decoding
import LogSearch.Proofs.Ingestion.Keys
