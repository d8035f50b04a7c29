import LogSearch.Proofs.Query.Stored
import LogSearch.Proofs.Search.Replies
import LogSearch.Search.Executor

/-!
# How searches end

A search that is switched on and whose query compiles asks the backend once, and what comes of it
depends on the outcome of that request alone (`Executor.search_eq`).  The backend may reply with any
value.  `Executor.search_ends` says for which outcomes the search has results or a fault of the
backend: for all but the replies that are objects and yet have no reading, and those that hold a
text that is not UTF-8.  `Executor.search_ends_unread` is a search that ends otherwise.
-/

namespace LogSearch

namespace Ingestion

/-- Results or a fault of the backend can be concluded from the outcome.  A reply that is an object
and says something must have a reading for this. -/
def Outcome.IsConclusive : Outcome → Prop
  | .unavailable _ => True
  | .undecodable _ => False
  | .reply body => body.isFilled → body.isObject → body.IsReply

end Ingestion

namespace Executor

open Ingestion

section Conclusions

variable (query : Text) {body : Json}

/-- A reply that says nothing or is no object is a fault of the backend. -/
lemma exists_conclude_of_no_object (h : ¬ (body.isFilled ∧ body.isObject)) :
    ∃ message, (conclude query (.reply body)).1 = .error (.backend message) := by
  rw [conclude]
  cases hfilled : body.isFilled with
  | false => exact ⟨_, rfl⟩
  | true =>
    cases hobject : body.isObject with
    | false => exact ⟨_, rfl⟩
    | true => exact absurd ⟨hfilled, hobject⟩ h

/-- Any other reply is read, and what is at fault then is its reading. -/
lemma conclude_of_object (hfilled : body.isFilled) (hobject : body.isObject) :
    (conclude query (.reply body)).1 =
      (SearchResponse.ofReply highlightFields query body).mapError .reading := by
  rw [conclude, hfilled, hobject]
  rfl

lemma exists_conclude_of_isReply (hfilled : body.isFilled) (h : body.IsReply) :
    ∃ response, (conclude query (.reply body)).1 = .ok response := by
  obtain ⟨response, hresponse⟩ := SearchResponse.exists_ofReply_eq_ok_iff.2 h
  rw [conclude_of_object query hfilled h.isObject, hresponse]
  exact ⟨response, rfl⟩

lemma exists_conclude_of_not_isReply (hfilled : body.isFilled) (hobject : body.isObject)
    (h : ¬ body.IsReply) :
    ∃ fault, (conclude query (.reply body)).1 = .error (.reading fault) := by
  rw [conclude_of_object query hfilled hobject]
  cases hresponse : SearchResponse.ofReply highlightFields query body with
  | ok response => exact absurd (SearchResponse.exists_ofReply_eq_ok_iff.1 ⟨response, hresponse⟩) h
  | error fault => exact ⟨fault, rfl⟩

/-- The results are those of a reply that has a reading. -/
lemma exists_conclude_eq_ok_iff {outcome : Outcome} :
    (∃ response, (conclude query outcome).1 = .ok response) ↔
      ∃ body, outcome = .reply body ∧ body.isFilled ∧ body.IsReply := by
  constructor
  · rintro ⟨response, h⟩
    cases outcome with
    | unavailable message => contradiction
    | undecodable fault => contradiction
    | reply body =>
      by_cases hobject : body.isFilled ∧ body.isObject
      · refine ⟨body, rfl, hobject.1, ?_⟩
        by_contra hreply
        obtain ⟨fault, hfault⟩ := exists_conclude_of_not_isReply query hobject.1 hobject.2 hreply
        exact nomatch h.symm.trans hfault
      · obtain ⟨message, hmessage⟩ := exists_conclude_of_no_object query hobject
        exact nomatch h.symm.trans hmessage
  · rintro ⟨body, rfl, hfilled, hreply⟩
    exact exists_conclude_of_isReply query hfilled hreply

lemma conclude_iff_isConclusive {outcome : Outcome} :
    ((∃ response, (conclude query outcome).1 = .ok response) ∨
      ∃ message, (conclude query outcome).1 = .error (.backend message)) ↔
      outcome.IsConclusive := by
  cases outcome with
  | unavailable message => exact iff_of_true (.inr ⟨message, rfl⟩) trivial
  | undecodable fault =>
    refine iff_of_false ?_ not_false
    rintro (⟨response, h⟩ | ⟨message, h⟩)
    · exact nomatch h
    · exact nomatch h
  | reply body =>
    constructor
    · intro h hfilled hobject
      by_contra hreply
      obtain ⟨fault, hfault⟩ := exists_conclude_of_not_isReply query hfilled hobject hreply
      rcases h with ⟨response, h⟩ | ⟨message, h⟩
      · exact nomatch h.symm.trans hfault
      · exact nomatch h.symm.trans hfault
    · intro h
      by_cases hobject : body.isFilled ∧ body.isObject
      · exact .inl (exists_conclude_of_isReply query hobject.1 (h hobject.1 hobject.2))
      · exact .inr (exists_conclude_of_no_object query hobject)

end Conclusions

/-- A search that is let through is what is concluded from the outcome of its request. -/
lemma search_eq {σ : Type} {z : Zone} {e : Executor} {r : SearchRequest} {query : Text}
    (ask : Text → Json → σ → Outcome × σ) (s : σ) (henabled : e.enabled)
    (hquery : Query.compile z r.query = .ok query) :
    (e.search z ask r s).1 =
      conclude query (ask e.index (searchPayload query r.resolveSkipped r.resolveSize) s).1 := by
  have hprepare : e.prepare z r =
      .ok (query, searchPayload query r.resolveSkipped r.resolveSize) := by
    rw [prepare, henabled, hquery]
    rfl
  rw [search, hprepare]

/-- **How a search ends.**  A search that is let through has results or a fault of the backend just
when the outcome of its request is conclusive, and it has results just when the backend replied with
an object that has a reading. -/
theorem search_ends {σ : Type} {z : Zone} {e : Executor} {r : SearchRequest} {query : Text}
    (ask : Text → Json → σ → Outcome × σ) (s : σ) (henabled : e.enabled)
    (hquery : Query.compile z r.query = .ok query) :
    let outcome := (ask e.index (searchPayload query r.resolveSkipped r.resolveSize) s).1
    let result := (e.search z ask r s).1.1
    (((∃ response, result = .ok response) ∨ ∃ message, result = .error (.backend message)) ↔
        outcome.IsConclusive) ∧
      ((∃ response, result = .ok response) ↔
        ∃ body, outcome = .reply body ∧ body.isFilled ∧ body.IsReply) := by
  intro outcome result
  have hresult : result = (conclude query outcome).1 :=
    congrArg Prod.fst (search_eq ask s henabled hquery)
  rw [hresult]
  exact ⟨conclude_iff_isConclusive query, exists_conclude_eq_ok_iff query⟩

lemma compile_question_level (z : Zone) :
    Query.compile z (Query.question "level" "error") = .ok "level.keyword:\"ERROR\"" := by
  have hclause := Query.clause_of_phrase z "error" (show Query.Field.ofName? "level" = _ from rfl)
  exact Query.compile_question_of_clause (by simp [Query.memberNames]) hclause

/-- A reply in which nothing is of the usual kind, but everything can be taken for what is needed:
the counts are a truth value and digits with an underscore, the score is a text and the members of
the hit are an empty list. -/
theorem search_ends_of_odd_reply :
    let e : Executor := ⟨"logs", true⟩
    let r : SearchRequest := ⟨Query.question "level" "error", none, some 500⟩
    let body : Json := .record [("took", .text "1_0"), ("hits", .record [
      ("total", .record [("value", .bool true)]),
      ("hits", .list [.record [("_score", .text "best"), ("_source", .list [])]])])]
    e.enabled ∧ Query.compile ⟨0⟩ r.query = .ok "level.keyword:\"ERROR\"" ∧
      ∃ response, (e.search ⟨0⟩ (fun _ _ n => (.reply body, n + 1)) r 0).1.1 = .ok response := by
  intro e r body
  have hquery := compile_question_level ⟨0⟩
  have hhit : ∀ hit ∈ ((body.member "hits").member "hits").items, hit.IsHit := by
    intro hit hmem
    obtain rfl := List.mem_singleton.1 hmem
    exact ⟨rfl, nofun, nofun⟩
  have hreply : body.IsReply := ⟨rfl, fun _ => rfl, trivial, .inr ⟨10, rfl⟩, hhit⟩
  exact ⟨rfl, hquery, (search_ends (fun _ _ n => (.reply body, n + 1)) 0 rfl hquery).2.2
    ⟨body, rfl, rfl, hreply⟩⟩

/-- A reply whose hits are a list has no reading, and the search has neither results nor a fault of
the backend. -/
theorem search_ends_unread :
    let e : Executor := ⟨"logs", true⟩
    let r : SearchRequest := ⟨Query.question "level" "error", none, none⟩
    let body : Json := .record [("hits", .list [.int 1])]
    let result := (e.search ⟨0⟩ (fun _ _ s => (.reply body, s)) r ()).1.1
    e.enabled ∧ Query.compile ⟨0⟩ r.query = .ok "level.keyword:\"ERROR\"" ∧
      result = .error (.reading .notObject) ∧
      ¬ ((∃ response, result = .ok response) ∨ ∃ message, result = .error (.backend message)) := by
  intro e r body result
  have hquery := compile_question_level ⟨0⟩
  have hresult : result = .error (.reading .notObject) :=
    congrArg Prod.fst (search_eq (fun _ _ s => (.reply body, s)) () rfl hquery)
  refine ⟨rfl, hquery, hresult, ?_⟩
  rintro (⟨response, h⟩ | ⟨message, h⟩)
  · exact nomatch hresult.symm.trans h
  · exact nomatch hresult.symm.trans h

end Executor

end LogSearch
