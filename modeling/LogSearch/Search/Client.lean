import LogSearch.Ingestion.Bulk
import LogSearch.Ingestion.Sink
import LogSearch.Json.Reader
import LogSearch.Settings.Sections
import LogSearch.Text.Basic

/-!
# The client of the search backend

The backend is reached over HTTP.  Batches of documents are posted to one address, searches to
another.  The session over which this is done is opened when it is first needed, and again when
it is needed after it was closed.

What the network does is given in advance, as the list of the exchanges to come
(`Connection.exchanges`), and so is the decoder of JSON.  The body of a response has to be blank or
decoded to an object.  Everything else is an unusable reply (`Response.outcome`), unless the decoder
itself breaks off.
-/

namespace LogSearch

open Ingestion

/-- How the backend is reached. -/
structure Client where
  host : Text
  auth : Option (Text × Text)
  connectTimeout : Binary64
  readTimeout : Binary64
deriving DecidableEq

namespace Client

/-- The timeouts when none are given, in seconds. -/
def defaultConnectTimeout : Binary64 := Binary64.ofInt 5

@[inherit_doc defaultConnectTimeout]
def defaultReadTimeout : Binary64 := Binary64.ofInt 30

/-- A client for a host.  A user name cannot hold a colon, which ends it when it is sent. -/
def new? (host : Text) (auth : Option (Text × Text))
    (connectTimeout readTimeout : Binary64) : Option Client :=
  if auth.any fun a => a.1.contains ':' then none
  else some ⟨Text.trimEndBy (· == '/') host, auth, connectTimeout, readTimeout⟩

/-- The client that settings call for. -/
def ofSettings? (s : SearchSettings) : Option Client :=
  new? s.host s.basicAuth s.connectTimeout s.readTimeout

/-- The address to which batches are posted. -/
def bulkUrl (c : Client) : Text := c.host ++ "/_bulk?refresh=false"

/-- The address to which searches are posted. -/
def searchUrl (c : Client) (index : Text) : Text := c.host ++ "/" ++ index ++ "/_search"

end Client

/-- What comes of posting something. -/
inductive Response where
  | body (bytes : Bytes)
  /-- The exchange fails, with a text about it, which is empty when it took too long. -/
  | failure (message : Text)
deriving DecidableEq, Repr

/-- What the network does with one request, and the seconds that it takes. -/
structure Exchange where
  response : Response
  delay : Rat
deriving DecidableEq

/-- Something that was posted. -/
structure Post where
  url : Text
  body : Text
  contentType : Text
deriving DecidableEq, Repr

/-- What a response means.  `url` is the address that was posted to. -/
def Response.outcome (decode : Json.Decoder) (url : Text) : Response → Outcome
  | .failure message => .unavailable ("Request to " ++ url ++ " failed: " ++ message)
  | .body bytes =>
    if bytes.all fun b => b.toNat < 128 && Text.isAsciiBlank (Char.ofNat b.toNat) then
      .reply .null
    else
      match decode bytes with
      | .error .refused => .unavailable ("Invalid JSON returned by " ++ url)
      | .error (.broken message) => .undecodable message
      | .ok (.object ms) => .reply (.object ms)
      | .ok j => .unavailable ("Expected a JSON object from " ++ url ++ ", got " ++ j.kindName)

/-- A client at work: the decoder, whether a session is open, how many were opened and closed, what
was posted, last one last, and what the network is going to do. -/
structure Connection where
  client : Client
  decode : Json.Decoder
  isOpen : Bool
  opened : Nat
  closed : Nat
  posts : List Post
  exchanges : List Exchange

namespace Connection

/-- A client that has not done anything. -/
def new (client : Client) (decode : Json.Decoder) (exchanges : List Exchange) : Connection :=
  ⟨client, decode, false, 0, 0, [], exchanges⟩

/-- What the network does after all that was foreseen: it responds with an empty object. -/
def lastExchange : Exchange := ⟨.body (Utf8.encode ['\x7b', '\x7d']), 0⟩

/-- The connection with an open session. -/
def withSession (c : Connection) : Connection :=
  if c.isOpen then c else { c with isOpen := true, opened := c.opened + 1 }

/-- Posts something. -/
def post (c : Connection) (p : Post) : Delivery × Connection :=
  let c := c.withSession
  let e := c.exchanges.headD lastExchange
  (⟨e.response.outcome c.decode p.url, e.delay⟩,
    { c with posts := c.posts ++ [p], exchanges := c.exchanges.tail })

/-- Posts the body of a bulk request. -/
def bulk (c : Connection) (body : Text) : Delivery × Connection :=
  c.post ⟨c.client.bulkUrl, body, "application/x-ndjson"⟩

/-- Posts a search. -/
def search (c : Connection) (index : Text) (payload : Json) : Delivery × Connection :=
  c.post ⟨c.client.searchUrl index, Json.write payload, "application/json"⟩

/-- What is reported of a session that is closed. -/
def closedEntry : Entry := ⟨.info, "Closed search backend session"⟩

/-- Closes the session, if one is open. -/
def close (c : Connection) : Connection × List Entry :=
  if c.isOpen then ({ c with isOpen := false, closed := c.closed + 1 }, [closedEntry])
  else (c, [])

instance : Sink Connection where
  bulk c index batch := c.bulk (Bulk.body index batch)
  lateAnswers c := (c.exchanges.filter fun e => 0 < e.delay).length
  lateAnswers_bulk c index batch h := by
    have hs : c.withSession.exchanges = c.exchanges := by
      unfold withSession
      split <;> rfl
    simp only [bulk, post, Delivery.isLate, hs] at h ⊢
    cases he : c.exchanges with
    | nil => simp [he, lastExchange] at h
    | cons e rest =>
      simp only [he, List.headD_cons, decide_eq_true_eq] at h
      simp [h]

end Connection

end LogSearch
