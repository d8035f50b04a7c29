import LogSearch.Proofs.Except
import LogSearch.Search.Hit
import Mathlib.Tactic.Lemma

/-!
# Replies that have a reading

The search backend may reply with any JSON value, and `SearchResponse.ofReply` reads what it can.
`Json.IsReply` says of which values it makes search results, in terms of the value and not of the
reader: the value is an object, two counts in it can be counted, and each of its hits is an object
with a score that is not too large and with members.  Values that say nothing, like null, zero or an
empty list, are let through in every place but that of a hit.

`SearchResponse.exists_ofReply_eq_ok_iff` says that this is exact.  It is put together from one such
equivalence for each part of a reply.  `SearchResponse.ofReply_eq` tells what is read of a reply
with members, so that other modules need not open the reader.
-/

namespace LogSearch

namespace Json

/-! ## The form of a reply -/

/-- The items of a value that is a list; any other value has none. -/
def items : Json → List Json
  | .list js => js
  | _ => []

/-- The members of the value can be asked for: it is an object, or it says nothing. -/
def HasMembers (j : Json) : Prop := j.isFilled → j.isObject

/-- The value can be taken for a score.  An integer has to be in the range of floating-point
numbers. -/
def IsScore (j : Json) : Prop := ∀ n, j = .int n → (Binary64.ofInt n).isInfinite = false

/-- The value can be taken for a count: it is an integer, a truth value, a finite number, a text
that denotes an integer, or it says nothing. -/
def IsCount : Json → Prop
  | .null | .bool _ | .int _ => True
  | .float x => x ≠ .nan ∧ x.isInfinite = false
  | .text t => t = [] ∨ ∃ n, countOfText? t = some n
  | .list items => items = []
  | .object members => members = []

/-- The value can be taken for a hit. -/
structure IsHit (j : Json) : Prop where
  isObject : j.isObject
  score : (j.member "_score").IsScore
  source : (j.member "_source").HasMembers

/-- The value can be taken for a reply: its counts are counts and its hits are hits. -/
structure IsReply (j : Json) : Prop where
  isObject : j.isObject
  hits : (j.member "hits").HasMembers
  total : (((j.member "hits").member "total").member "value").IsCount
  took : (j.member "took").IsCount
  each : ∀ hit ∈ ((j.member "hits").member "hits").items, hit.IsHit

end Json

/-! ## Reading the parts -/

namespace SearchHit

variable {j : Json} {ms : List (Text × Json)}

lemma exists_membersOf_eq_ok_iff : (∃ ms, membersOf j = .ok ms) ↔ j.HasMembers := by
  cases j with
  | object ms => exact ⟨fun _ _ => rfl, fun _ => ⟨ms, rfl⟩⟩
  | _ =>
    simp only [membersOf, Json.HasMembers, Json.isObject]
    split
    next hfilled => simp [hfilled]
    next hempty => simp [hempty]

lemma member_of_membersOf (h : membersOf j = .ok ms) (key : Text) :
    (Json.object ms).member key = j.member key := by
  cases j with
  | object _ => rw [← Except.ok.inj h]
  | _ =>
    simp only [membersOf] at h
    split at h
    next => contradiction
    next => rw [← Except.ok.inj h]; rfl

lemma exists_scoreOf_eq_ok_iff : (∃ x, scoreOf j = .ok x) ↔ j.IsScore := by
  have hother (hscore : ∃ x, scoreOf j = .ok x) (hint : ∀ n, j ≠ .int n) :
      (∃ x, scoreOf j = .ok x) ↔ j.IsScore :=
    iff_of_true hscore fun n hn => absurd hn (hint n)
  cases j with
  | int n =>
    have hscore : scoreOf (.int n) =
        if (Binary64.ofInt n).isInfinite then .error .tooLarge else .ok (Binary64.ofInt n) := rfl
    rw [hscore, Json.IsScore]
    cases hinfinite : (Binary64.ofInt n).isInfinite <;> simp [hinfinite]
  | null => exact hother ⟨_, rfl⟩ nofun
  | bool b => exact hother ⟨_, rfl⟩ nofun
  | float x => exact hother ⟨_, rfl⟩ nofun
  | text t => exact hother ⟨_, rfl⟩ nofun
  | list items => exact hother ⟨_, rfl⟩ nofun
  | object members => exact hother ⟨_, rfl⟩ nofun

lemma exists_ofJson_eq_ok_iff (fields : List Text) :
    (∃ hit, ofJson fields j = .ok hit) ↔ j.IsHit := by
  by_cases hobject : j.isObject
  · cases j with
    | object ms =>
      constructor
      · rintro ⟨hit, h⟩
        obtain ⟨score, hscore, h⟩ := Except.bind_eq_ok_iff.1 h
        obtain ⟨source, hsource, -⟩ := Except.bind_eq_ok_iff.1 h
        exact ⟨rfl, exists_scoreOf_eq_ok_iff.1 ⟨score, hscore⟩,
          exists_membersOf_eq_ok_iff.1 ⟨source, hsource⟩⟩
      · intro h
        obtain ⟨score, hscore⟩ := exists_scoreOf_eq_ok_iff.2 h.score
        obtain ⟨source, hsource⟩ := exists_membersOf_eq_ok_iff.2 h.source
        exact ⟨_, Except.bind_eq_ok_iff.2 ⟨score, hscore,
          Except.bind_eq_ok_iff.2 ⟨source, hsource, rfl⟩⟩⟩
    | _ => contradiction
  · refine iff_of_false ?_ fun h => hobject h.isObject
    rintro ⟨hit, h⟩
    cases j with
    | object ms => exact hobject rfl
    | _ => contradiction

end SearchHit

lemma countOf_of_not_filled {j : Json} (h : j.isFilled = false) : countOf j = .ok 0 := by
  simp [countOf, h]

lemma isCount_of_not_filled {j : Json} (h : j.isFilled = false) : j.IsCount := by
  cases j with
  | null => trivial
  | bool b => trivial
  | int n => trivial
  | float x => cases x <;> first | contradiction | exact ⟨nofun, rfl⟩
  | text t => exact .inl (by simpa [Json.isFilled] using h)
  | list items => simpa [Json.isFilled, Json.IsCount] using h
  | object members => simpa [Json.isFilled, Json.IsCount] using h

lemma exists_countOf_eq_ok_iff {j : Json} : (∃ n, countOf j = .ok n) ↔ j.IsCount := by
  cases hfilled : j.isFilled with
  | false => exact iff_of_true ⟨0, countOf_of_not_filled hfilled⟩ (isCount_of_not_filled hfilled)
  | true =>
    cases j with
    | null => contradiction
    | bool b => exact iff_of_true ⟨if b then 1 else 0, by rw [countOf, hfilled]; rfl⟩ trivial
    | int n => exact iff_of_true ⟨n, by rw [countOf, hfilled]; rfl⟩ trivial
    | float x =>
      cases x with
      | nan => exact iff_of_false nofun fun h => h.1 rfl
      | infinite negative => exact iff_of_false nofun fun h => Bool.noConfusion h.2
      | finite negative significand power h =>
        exact iff_of_true ⟨_, by rw [countOf, hfilled]; rfl⟩ ⟨nofun, rfl⟩
    | text t =>
      have ht : t ≠ [] := by simpa [Json.isFilled] using hfilled
      cases hcount : countOfText? t <;> simp [countOf, hfilled, Json.IsCount, hcount, ht]
    | list items =>
      have hitems : items ≠ [] := by simpa [Json.isFilled] using hfilled
      simp [countOf, hfilled, Json.IsCount, hitems]
    | object members =>
      have hmembers : members ≠ [] := by simpa [Json.isFilled] using hfilled
      simp [countOf, hfilled, Json.IsCount, hmembers]

namespace SearchResponse

variable {fields : List Text} {query : Text} {body : Json}

lemma exists_hitsOf_eq_ok_iff {j : Json} :
    (∃ hits, hitsOf fields j = .ok hits) ↔ ∀ hit ∈ j.items, hit.IsHit := by
  cases j with
  | list js =>
    refine Except.exists_mapM_eq_ok_iff.trans ?_
    exact forall₂_congr fun hit _ => SearchHit.exists_ofJson_eq_ok_iff fields
  | _ => exact iff_of_true ⟨[], rfl⟩ (List.forall_mem_nil _)

/-- What is read of a reply, part by part. -/
lemma ofReply_eq (hobject : body.isObject) (hhits : (body.member "hits").HasMembers) :
    ofReply fields query body = (do
      let total ← countOf (((body.member "hits").member "total").member "value")
      let took ← countOf (body.member "took")
      let hits ← hitsOf fields ((body.member "hits").member "hits")
      return ⟨total, took, query, hits⟩) := by
  obtain ⟨ms, hms⟩ := SearchHit.exists_membersOf_eq_ok_iff.2 hhits
  rw [ofReply, hobject, hms]
  simp only [← SearchHit.member_of_membersOf hms]
  rfl

lemma exists_ofReply_eq_ok_iff :
    (∃ response, ofReply fields query body = .ok response) ↔ body.IsReply := by
  constructor
  · rintro ⟨response, h⟩
    have hobject : body.isObject := by
      rw [← Bool.not_eq_false]
      intro hother
      rw [ofReply, hother] at h
      contradiction
    have hmembers : (body.member "hits").HasMembers := by
      rw [ofReply, hobject] at h
      obtain ⟨ms, hms, -⟩ := Except.bind_eq_ok_iff.1 h
      exact SearchHit.exists_membersOf_eq_ok_iff.1 ⟨ms, hms⟩
    rw [ofReply_eq hobject hmembers] at h
    obtain ⟨total, htotal, h⟩ := Except.bind_eq_ok_iff.1 h
    obtain ⟨took, htook, h⟩ := Except.bind_eq_ok_iff.1 h
    obtain ⟨hits, hhits, -⟩ := Except.bind_eq_ok_iff.1 h
    exact ⟨hobject, hmembers, exists_countOf_eq_ok_iff.1 ⟨total, htotal⟩,
      exists_countOf_eq_ok_iff.1 ⟨took, htook⟩, exists_hitsOf_eq_ok_iff.1 ⟨hits, hhits⟩⟩
  · intro h
    obtain ⟨total, htotal⟩ := exists_countOf_eq_ok_iff.2 h.total
    obtain ⟨took, htook⟩ := exists_countOf_eq_ok_iff.2 h.took
    obtain ⟨hits, hhits⟩ := exists_hitsOf_eq_ok_iff.2 h.each
    rw [ofReply_eq h.isObject h.hits, htotal, htook, hhits]
    exact ⟨_, rfl⟩

end SearchResponse

end LogSearch
