import LogSearch.Ingestion.Service
import LogSearch.Search.Client
import LogSearch.Search.Executor

/-!
# The web service

The service answers two requests: a search, and a question for what ingestion has done so far.
It owns the client of the search backend, through which both searches and ingestion go, and
the ingestion service, which it starts and stops.

What a request comes to is a `Reply`.  A refusal has a status, and a text about it where the
fault is one that the sender can understand.
-/

namespace LogSearch

open Ingestion

/-- What ingestion has done so far. -/
structure Statistics where
  ticks : Nat
  parsedLines : Nat
  skippedLines : Nat
  documentsShipped : Nat
  documentsDropped : Nat
  failedBatches : Nat
  isRunning : Bool
deriving DecidableEq, Repr

/-- The answer to a request. -/
inductive Reply where
  | results (response : SearchResponse)
  | statistics (statistics : Statistics)
  | refused (status : Nat) (detail : Option Text)

/-- The status of an answer. -/
def Reply.status : Reply → Nat
  | .results _ => 200
  | .statistics _ => 200
  | .refused status _ => status

/-- The statuses of refusals: the request is wrong, the service is at fault, the backend is at
fault, and search is not to be had. -/
def badRequest : Nat := 400

@[inherit_doc badRequest]
def internalError : Nat := 500

@[inherit_doc badRequest]
def badGateway : Nat := 502

@[inherit_doc badRequest]
def unavailable : Nat := 503

/-- The refusal of a search that has no results. -/
def Reply.ofFault : SearchFault → Reply
  | .disabled => .refused unavailable (some disabledMessage)
  | .query (.range _) => .refused internalError none
  | .query fault => .refused badRequest (some fault.message)
  | .backend message =>
    .refused badGateway
      (some ("Failed to execute search against the search backend: " ++ message))
  | .undecodable _ | .reading _ => .refused internalError none

/-- The answer to a search that was run. -/
def Reply.ofResult : Except SearchFault SearchResponse → Reply
  | .ok response => .results response
  | .error fault => .ofFault fault

/-- The web service at work.  Searches need an executor, statistics and the stopping of
ingestion need the ingestion service, and the closing of the session needs the client; each of
them may have been taken away. -/
structure Api where
  ingestion : Service Connection
  executor : Option Executor
  hasIngestion : Bool
  hasClient : Bool

namespace Api

/-- The connection to the search backend. -/
def connection (a : Api) : Connection := a.ingestion.collector.sink

/-- The service with another connection. -/
def withConnection (a : Api) (c : Connection) : Api := { a with ingestion.collector.sink := c }

/-- The service with more entries in the journal. -/
def reportAll (a : Api) (entries : List Entry) : Api :=
  { a with ingestion.collector.journal := a.ingestion.collector.journal ++ entries }

/-- The executor that settings call for. -/
def executorOf (s : SearchSettings) : Executor := ⟨s.index, s.enabled && s.searchEnabled⟩

/-- What is reported at the start when the search backend is switched off. -/
def backendDisabledEntry : Entry :=
  ⟨.warning, "Search backend disabled (SEARCH_ENABLED=false): search and ingestion are off."⟩

/-- The service at its start. -/
def start? (site : Site) (files : Files) (decode : Json.Decoder) (settings : Settings)
    (exchanges : List Exchange) : Option Api := do
  let client ← Client.ofSettings? settings.search
  let ingestion ← Service.new? site files (Connection.new client decode exchanges) settings.search
    settings.ingestion
  let a : Api := ⟨ingestion, some (executorOf settings.search), true, true⟩
  let a := if settings.search.enabled then a else a.reportAll [backendDisabledEntry]
  return { a with ingestion := a.ingestion.start.settle }

/-- Puts a question about an index to the backend and waits for the outcome. -/
def ask (index : Text) (payload : Json) (a : Api) : Outcome × Api :=
  let (delivery, connection) := a.connection.search index payload
  let a := a.withConnection connection
  (delivery.outcome,
    if delivery.isLate then { a with ingestion := a.ingestion.pause delivery.delay } else a)

/-- Answers a search, with what is reported of it.  The form of the request is looked at first.
`ask` puts a question about an index to the backend. -/
def answer {σ : Type} (z : Zone) (executor : Option Executor)
    (ask : Text → Json → σ → Outcome × σ) (body : Json) (s : σ) : (Reply × List Entry) × σ :=
  match SearchRequest.checkLax body with
  | .error _ => ((.refused badRequest none, []), s)
  | .ok request =>
    match executor with
    | none => ((.refused unavailable (some "Analytics search is not available"), []), s)
    | some executor =>
      let ((result, entries), s) := executor.search z ask request s
      ((.ofResult result, entries), s)

/-- Answers a search through the client. -/
def search (a : Api) (body : Json) : Reply × Api :=
  let ((reply, entries), a) := answer a.ingestion.site.zone a.executor ask body a
  (reply, a.reportAll entries)

/-- Answers a search whose body is a text, which has to be a JSON document. -/
def searchText (a : Api) (body : Text) : Reply × Api :=
  match a.connection.decode (Utf8.encode body) with
  | .error .refused => (.refused badRequest none, a)
  | .error (.broken _) => (.refused internalError none, a)
  | .ok j => a.search j

/-- What an ingestion service has done so far. -/
def statisticsOf (s : Service Connection) : Statistics :=
  ⟨s.ticks, s.collector.counts.parsed, s.collector.counts.skipped, s.collector.outbox.shipped,
    s.collector.outbox.dropped, s.collector.outbox.failedBatches, s.isRunning⟩

/-- Answers the question for what ingestion has done so far; without an ingestion service it
has done nothing. -/
def stats (a : Api) : Reply :=
  .statistics (if a.hasIngestion then statisticsOf a.ingestion else ⟨0, 0, 0, 0, 0, 0, false⟩)

/-- Lets time pass. -/
def advance (a : Api) (seconds : Rat) : Api :=
  { a with ingestion := a.ingestion.advance seconds }

/-- The seconds for which a pass in progress is waited for at the end. -/
def shutdownTimeout : Rat := 5

/-- Ends the service: ingestion is stopped first, so that no batch is on its way when the
session is closed. -/
def shutdown (a : Api) : Api :=
  let a :=
    if a.hasIngestion then { a with ingestion := a.ingestion.stop (some shutdownTimeout) } else a
  if a.hasClient then
    let (connection, entries) := a.connection.close
    (a.withConnection connection).reportAll entries
  else a

end Api

end LogSearch
