import LogSearch.Ingestion.Sink
import LogSearch.Query.Compile
import LogSearch.Search.Hit
import LogSearch.Search.Request

/-!
# Running searches

A search is compiled, sent to the search backend, and its reply is read.  The backend is asked
at most once, and only if search is switched on and the query compiles.

How the backend is asked is left open: `Executor.search` works with anything that takes a
request and gives an outcome, whatever that changes on the way.
-/

namespace LogSearch

open Ingestion

/-- The index that is searched, and the switch. -/
structure Executor where
  index : Text
  enabled : Bool
deriving DecidableEq, Repr

/-- Why a search has no results. -/
inductive SearchFault where
  | disabled
  | query (fault : Query.CompileFault)
  /-- The backend gives no usable reply. -/
  | backend (message : Text)
  /-- The decoder broke off at the reply, with a text about that. -/
  | undecodable (message : Text)
  /-- The reply has no reading. -/
  | reading (fault : ReadingFault)
deriving DecidableEq, Repr

/-- The wording of the fault that search is switched off. -/
def disabledMessage : Text :=
  "Analytics search is disabled. Set SEARCH_ENABLED=true to use this feature."

namespace Executor

/-- The compiled query of a request and what the backend is to be asked. -/
def prepare (z : Zone) (e : Executor) (r : SearchRequest) : Except SearchFault (Text × Json) :=
  if !e.enabled then .error .disabled
  else
    match Query.compile z r.query with
    | .error fault => .error (.query fault)
    | .ok query => .ok (query, searchPayload query r.resolveSkipped r.resolveSize)

/-- What is reported of a search for which there is no usable reply. -/
def failedEntry : Entry := ⟨.error, "Failed to execute analytics search"⟩

/-- What comes of a search with the outcome of its request. -/
def conclude (query : Text) : Outcome → Except SearchFault SearchResponse × List Entry
  | .unavailable message => (.error (.backend message), [failedEntry])
  | .undecodable message => (.error (.undecodable message), [])
  | .reply body =>
    if !body.isFilled then (.error (.backend "Search backend returned an empty response"), [])
    else if !body.isObject then
      (.error (.backend ("Search backend returned " ++ body.kindName ++
        " instead of a JSON object")), [])
    else ((SearchResponse.ofReply highlightFields query body).mapError .reading, [])

/-- Runs a search.  `ask` puts a question about an index to the backend. -/
def search {σ : Type} (z : Zone) (e : Executor) (ask : Text → Json → σ → Outcome × σ)
    (r : SearchRequest) (s : σ) : (Except SearchFault SearchResponse × List Entry) × σ :=
  match e.prepare z r with
  | .error fault => ((.error fault, []), s)
  | .ok (query, payload) =>
    let (outcome, s) := ask e.index payload s
    (conclude query outcome, s)

end Executor

end LogSearch
