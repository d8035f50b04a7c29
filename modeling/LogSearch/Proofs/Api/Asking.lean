import LogSearch.Api
import LogSearch.Proofs.Ingestion.Handing
import LogSearch.Proofs.Ingestion.Scripted
import LogSearch.Proofs.Search.Endings
import LogSearch.Proofs.Search.Requests

/-!
# When a search asks the backend

A search is looked at four times before it has results: the body has to be a request, search has to
be switched on, the query has to compile, and the backend has to reply with an object.  The first of
these that fails decides who is at fault, and the backend is asked only after the first three.

`Api.Answered` says this of a body, a reply and the questions that were put to the backend, and
`Api.search_asks_when_it_may` proves it of the service: with whatever takes questions in the place
of the backend, and with the client in this place, where ingestion goes on in the background while
the backend is waited for.
-/

namespace LogSearch

open Ingestion Query

/-! ## Questions to the backend -/

/-- The question is for a query, and for `size` hits after those that are skipped. -/
structure Json.Asks (payload : Json) (query : Text) (skipped size : Int) : Prop where
  query : ((payload.member "query").member "query_string").member "query" = .text query
  skipped : payload.member "from" = .int skipped
  size : payload.member "size" = .int size

lemma asks_searchPayload (query : Text) (skipped size : Int) :
    (searchPayload query skipped size).Asks query skipped size := by
  constructor <;> simp [searchPayload, Json.record, Json.member, Json.find?, List.lookup]

lemma SearchResponse.compiledQuery_of_ofReply {fields : List Text} {query : Text} {body : Json}
    {response : SearchResponse} (hbody : body.IsReply)
    (h : ofReply fields query body = .ok response) : response.compiledQuery = query := by
  rw [ofReply_eq hbody.isObject hbody.hits] at h
  obtain ⟨_, -, h⟩ := Except.bind_eq_ok_iff.1 h
  obtain ⟨_, -, h⟩ := Except.bind_eq_ok_iff.1 h
  obtain ⟨_, -, h⟩ := Except.bind_eq_ok_iff.1 h
  rw [← Except.pure_eq_ok_iff.1 h]

/-- The backend is at fault: it fails, or its reply says nothing or is no object. -/
def Ingestion.Outcome.IsFailure : Outcome → Prop
  | .unavailable _ => True
  | .undecodable _ => False
  | .reply body => ¬ (body.isFilled ∧ body.isObject)

/-! ## What has to come of a search -/

namespace Api

/-- The reply to a search after the outcome of its question. -/
structure Concluded (query : Text) (outcome : Outcome) (reply : Reply) : Prop where
  failed : outcome.IsFailure → ∃ detail, reply = .refused 502 (some detail)
  found : ∀ body, outcome = .reply body → body.isFilled → body.IsReply →
    ∃ response, SearchResponse.ofReply highlightFields query body = .ok response ∧
      response.compiledQuery = query ∧ reply = .results response

/-- The search is let through to an executor. -/
structure Admitted (executor : Option Executor) (body : Json) (r : SearchRequest) (e : Executor) :
    Prop where
  request : r.IsFor body
  executor : executor = some e
  enabled : e.enabled

/-- What has to come of a search: the reply to its body, and the questions that are put to the
backend for it.  `outcome` is what the backend has for a question about an index. -/
structure Answered (z : Zone) (executor : Option Executor) (body : Json)
    (outcome : Text → Json → Outcome) (reply : Reply) (questions : List (Text × Json)) : Prop where
  atMostOnce : questions.length ≤ 1
  invalid : (¬ ∃ r : SearchRequest, r.IsFor body) →
    reply = .refused 400 none ∧ questions = []
  /-- Where search is off, it does not matter what the query is. -/
  off : ∀ r : SearchRequest, r.IsFor body → (∀ e ∈ executor, e.enabled = false) →
    (∃ detail, reply = .refused 503 (some detail)) ∧ questions = []
  /-- A range that has no instant at one of its ends is not the fault of the sender. -/
  malformed : ∀ r e fault, Admitted executor body r e → compile z r.query = .error fault →
    questions = [] ∧ ((∀ f, fault ≠ .range f) → reply = .refused 400 (some fault.message))
  asked : ∀ r e query, Admitted executor body r e → compile z r.query = .ok query →
    ∃ payload, questions = [(e.index, payload)] ∧
      payload.Asks query (r.skipped.getD 0) (min (max (r.size.getD 20) 1) 200) ∧
      0 ≤ r.skipped.getD 0 ∧ Concluded query (outcome e.index payload) reply

/-- The questions that are put to the backend for a search. -/
def questions (z : Zone) (executor : Option Executor) (body : Json) : List (Text × Json) :=
  match SearchRequest.checkLax body, executor with
  | .ok r, some e =>
    match e.prepare z r with
    | .ok (_, payload) => [(e.index, payload)]
    | .error _ => []
  | _, _ => []

section Answers

variable {σ : Type} {z : Zone} {executor : Option Executor} {body : Json} {r : SearchRequest}
  {e : Executor} (ask : Text → Json → σ → Outcome × σ) (s : σ)

lemma answer_of_invalid (h : ¬ ∃ r : SearchRequest, r.IsFor body) :
    (answer z executor ask body s).1.1 = .refused 400 none ∧ questions z executor body = [] := by
  cases hcheck : SearchRequest.checkLax body with
  | ok r => exact absurd ⟨r, SearchRequest.checkLax_eq_ok_iff.1 hcheck⟩ h
  | error problems =>
    rw [questions.eq_def, answer, hcheck]
    exact ⟨rfl, rfl⟩

lemma answer_of_off (hbody : r.IsFor body) (h : ∀ e ∈ executor, e.enabled = false) :
    (∃ detail, (answer z executor ask body s).1.1 = .refused 503 (some detail)) ∧
      questions z executor body = [] := by
  have hcheck := SearchRequest.checkLax_eq_ok_iff.2 hbody
  cases executor with
  | none =>
    rw [questions.eq_def, answer, hcheck]
    exact ⟨⟨_, rfl⟩, rfl⟩
  | some e =>
    have hprepare : e.prepare z r = .error .disabled := by
      rw [Executor.prepare, h e rfl]
      rfl
    simp only [questions, answer, hcheck, Executor.search, hprepare]
    exact ⟨⟨_, rfl⟩, trivial⟩

lemma prepare_of_admitted (h : Admitted executor body r e) :
    e.prepare z r = match compile z r.query with
      | .error fault => .error (.query fault)
      | .ok query => .ok (query, searchPayload query r.resolveSkipped r.resolveSize) := by
  rw [Executor.prepare, h.enabled]
  rfl

lemma answer_of_malformed {fault : CompileFault} (h : Admitted executor body r e)
    (hquery : compile z r.query = .error fault) :
    questions z executor body = [] ∧ ((∀ f, fault ≠ .range f) →
      (answer z executor ask body s).1.1 = .refused 400 (some fault.message)) := by
  have hcheck := SearchRequest.checkLax_eq_ok_iff.2 h.request
  have hprepare := prepare_of_admitted (z := z) h
  simp only [questions, answer, hcheck, h.executor, Executor.search, hprepare, hquery, true_and]
  intro hfault
  cases fault with
  | syntactic fault => rfl
  | condition fault => rfl
  | range fault => exact absurd rfl (hfault fault)

lemma answer_of_asked {query : Text} (h : Admitted executor body r e)
    (hquery : compile z r.query = .ok query) :
    (answer z executor ask body s).1.1 = .ofResult (Executor.conclude query
        (ask e.index (searchPayload query r.resolveSkipped r.resolveSize) s).1).1 ∧
      questions z executor body =
        [(e.index, searchPayload query r.resolveSkipped r.resolveSize)] := by
  have hcheck := SearchRequest.checkLax_eq_ok_iff.2 h.request
  have hprepare := prepare_of_admitted (z := z) h
  simp only [questions, answer, hcheck, h.executor, Executor.search, hprepare, hquery, and_self]

/-- The questions of a search are all that happens to the backend. -/
lemma answer_state (z : Zone) (executor : Option Executor) (body : Json) :
    (answer z executor ask body s).2 =
      (questions z executor body).foldl (fun s q => (ask q.1 q.2 s).2) s := by
  unfold answer questions
  cases SearchRequest.checkLax body with
  | error problems => rfl
  | ok r =>
    cases executor with
    | none => rfl
    | some e =>
      simp only [Executor.search]
      cases e.prepare z r with
      | error fault => rfl
      | ok prepared => rfl

lemma length_questions_le (z : Zone) (executor : Option Executor) (body : Json) :
    (questions z executor body).length ≤ 1 := by
  unfold questions
  split
  · split <;> simp
  · simp

lemma concluded (query : Text) (outcome : Outcome) :
    Concluded query outcome (.ofResult (Executor.conclude query outcome).1) := by
  constructor
  · intro h
    cases outcome with
    | unavailable message => exact ⟨_, rfl⟩
    | undecodable fault => contradiction
    | reply body =>
      obtain ⟨message, hmessage⟩ := Executor.exists_conclude_of_no_object query h
      rw [hmessage]
      exact ⟨_, rfl⟩
  · rintro body rfl hfilled hreply
    obtain ⟨response, hresponse⟩ := SearchResponse.exists_ofReply_eq_ok_iff.2 hreply
    refine ⟨response, hresponse, SearchResponse.compiledQuery_of_ofReply hreply hresponse, ?_⟩
    rw [Executor.conclude_of_object query hfilled hreply.isObject, hresponse]
    rfl

lemma answered (z : Zone) (executor : Option Executor) (body : Json) :
    Answered z executor body (fun index payload => (ask index payload s).1)
      (answer z executor ask body s).1.1 (questions z executor body) where
  atMostOnce := length_questions_le z executor body
  invalid := answer_of_invalid ask s
  off _ := answer_of_off ask s
  malformed _ _ _ := answer_of_malformed ask s
  asked r e query h hquery := by
    obtain ⟨hreply, hquestions⟩ := answer_of_asked ask s h hquery
    refine ⟨_, hquestions, asks_searchPayload .., h.request.resolveSkipped_nonneg, ?_⟩
    rw [hreply]
    exact concluded query _

end Answers

end Api

/-! ## The client in the place of the backend -/

/-- The searches among what was posted. -/
def Connection.searches (c : Connection) : List Post :=
  c.posts.filter fun p => p.contentType = "application/json"

/-- What is posted for a question. -/
def Client.searchPost (client : Client) (question : Text × Json) : Post :=
  ⟨client.searchUrl question.1, Json.write question.2, "application/json"⟩

namespace Connection

variable {c c' : Connection}

lemma searches_search (c : Connection) (index : Text) (payload : Json) :
    (c.search index payload).2.searches = c.searches ++ [c.client.searchPost (index, payload)] := by
  rw [search, searches, (c.post_frame _).2.2.1, List.filter_append]
  rfl

/-- Batches are no searches. -/
lemma searches_of_handed (h : Handed c c') :
    c'.client = c.client ∧ c'.searches = c.searches := by
  refine h.keeps (P := fun c' => c'.client = c.client ∧ c'.searches = c.searches) ⟨rfl, rfl⟩ ?_
  rintro c₁ index batch ⟨hclient, hsearches⟩
  have hposts : (Sink.bulk c₁ index batch).2.posts = c₁.posts ++ [c₁.client.bulkPost index batch] :=
    (c₁.post_frame _).2.2.1
  refine ⟨(c₁.post_frame _).1.trans hclient, ?_⟩
  rw [searches, hposts, List.filter_append]
  exact (List.append_nil _).trans hsearches

end Connection

namespace Api

/-- Putting a question posts one search, whatever ingestion does while its outcome is waited for. -/
lemma ask_frame (index : Text) (payload : Json) (a : Api) :
    (ask index payload a).2.connection.client = a.connection.client ∧
      (ask index payload a).2.connection.searches =
        a.connection.searches ++ [a.connection.client.searchPost (index, payload)] := by
  have hclient : (a.connection.search index payload).2.client = a.connection.client :=
    (a.connection.post_frame _).1
  have hsearches := a.connection.searches_search index payload
  unfold ask
  dsimp only
  split
  · have hwaited := Service.continues_pause
      (a.withConnection (a.connection.search index payload).2).ingestion
      (a.connection.search index payload).1.delay
    obtain ⟨hclient₁, hsearches₁⟩ := Connection.searches_of_handed hwaited.handed
    exact ⟨hclient₁.trans hclient, hsearches₁.trans hsearches⟩
  · exact ⟨hclient, hsearches⟩

lemma foldl_ask_frame (questions : List (Text × Json)) (a : Api) :
    (questions.foldl (fun a q => (ask q.1 q.2 a).2) a).connection.client = a.connection.client ∧
    (questions.foldl (fun a q => (ask q.1 q.2 a).2) a).connection.searches =
      a.connection.searches ++ questions.map a.connection.client.searchPost := by
  induction questions generalizing a with
  | nil => exact ⟨rfl, (List.append_nil _).symm⟩
  | cons question questions ih =>
    obtain ⟨hclient, hsearches⟩ := ask_frame question.1 question.2 a
    obtain ⟨hlast, hmore⟩ := ih (ask question.1 question.2 a).2
    rw [hclient] at hlast hmore
    refine ⟨hlast, ?_⟩
    rw [List.foldl_cons, hmore, hsearches, List.append_assoc]
    rfl

/-- What is left of a search: its questions were put, and something was reported. -/
lemma exists_search_eq (a : Api) (body : Json) : ∃ entries, (a.search body).2 =
    ((questions a.ingestion.site.zone a.executor body).foldl
      (fun a q => (ask q.1 q.2 a).2) a).reportAll entries := by
  rw [← answer_state]
  exact ⟨_, rfl⟩

/-- **A search asks the backend at most once, and only when it may.**  Whatever takes the questions,
it is put those that `Answered` allows, and nothing else happens to it.  So it is with the client,
which posts nothing but these questions as searches.  A body that is a text is answered as what it
is decoded to.  If it is not decoded, the backend is not asked: the body is wrong if the decoder
refuses it, and the service is at fault if the decoder breaks off. -/
theorem search_asks_when_it_may :
    (∀ (z : Zone) (executor : Option Executor) (body : Json), ∃ questions : List (Text × Json),
      ∀ (σ : Type) (ask : Text → Json → σ → Outcome × σ) (s : σ),
        Answered z executor body (fun index payload => (ask index payload s).1)
          (answer z executor ask body s).1.1 questions ∧
        (answer z executor ask body s).2 = questions.foldl (fun s q => (ask q.1 q.2 s).2) s) ∧
    (∀ (a : Api) (body : Json), ∃ questions : List (Text × Json),
      Answered a.ingestion.site.zone a.executor body
        (fun index payload => (a.connection.search index payload).1.outcome) (a.search body).1
        questions ∧
      (a.search body).2.connection.searches =
        a.connection.searches ++ questions.map a.connection.client.searchPost) ∧
    ∀ (a : Api) (text : Text),
      let decoded := a.connection.decode (Utf8.encode text)
      (decoded = .error .refused → a.searchText text = (.refused 400 none, a)) ∧
      (∀ message, decoded = .error (.broken message) →
        a.searchText text = (.refused 500 none, a)) ∧
      ∀ body, decoded = .ok body → a.searchText text = a.search body := by
  refine ⟨fun z executor body => ?_, fun a body => ?_, fun a text => ⟨?_, ?_, ?_⟩⟩
  · exact ⟨questions z executor body, fun σ ask s =>
      ⟨answered ask s z executor body, answer_state ask s z executor body⟩⟩
  · have hanswered := answered ask a a.ingestion.site.zone a.executor body
    refine ⟨_, hanswered, ?_⟩
    obtain ⟨entries, hsearch⟩ := a.exists_search_eq body
    rw [hsearch]
    exact (foldl_ask_frame _ a).2
  · intro htext
    rw [searchText, htext]
    rfl
  · intro message htext
    rw [searchText, htext]
    rfl
  · intro body htext
    rw [searchText, htext]

/-- A backend that replies with null is asked once, for 200 hits where 500 are wanted. -/
theorem search_asks_when_it_may_of_null_reply :
    let e : Executor := ⟨"logs", true⟩
    let body : Json := .record [("query", .text (question "level" "error")), ("size", .int 500)]
    let asked : Text → Json → List Json → Outcome × List Json := fun _ payload payloads =>
      (.reply .null, payloads ++ [payload])
    ∃ payload, (∃ detail, (answer ⟨0⟩ (some e) asked body []).1.1 = .refused 502 (some detail)) ∧
      (answer ⟨0⟩ (some e) asked body []).2 = [payload] ∧
      payload.Asks "level.keyword:\"ERROR\"" 0 200 := by
  intro e body asked
  have hrequest : (⟨question "level" "error", none, some 500⟩ : SearchRequest).IsFor body := by
    refine ⟨rfl, ?_, rfl, ?_, ?_, ?_⟩
    all_goals simp [body, Json.record, Json.member, Json.find?, List.lookup, SearchRequest.Reads,
      SearchRequest.skippedMember, Validation.readInt]
  obtain ⟨questions, h⟩ := search_asks_when_it_may.1 ⟨0⟩ (some e) body
  obtain ⟨hanswered, hstate⟩ := h _ asked []
  obtain ⟨payload, rfl, hasks, -, hconcluded⟩ :=
    hanswered.asked _ e _ ⟨hrequest, rfl, rfl⟩ (Executor.compile_question_level ⟨0⟩)
  have hfailure : (Outcome.reply .null).IsFailure := by simp [Outcome.IsFailure, Json.isFilled]
  exact ⟨payload, hconcluded.failed hfailure, hstate, hasks⟩

end Api

end LogSearch
