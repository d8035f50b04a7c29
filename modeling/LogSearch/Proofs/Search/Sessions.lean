import LogSearch.Search.Client
import Mathlib.Data.List.Basic
import Mathlib.Tactic.Lemma

/-!
# The sessions of a client

A `Connection` says of its sessions whether one is open and how many were opened and closed.  Here
they are kept apart (`Sessions`): each has its number, is open or not and has the requests that were
sent over it, and the client holds one of them, which somebody else may have closed in the meantime.

`sessions_in_order` says that the client takes care of them.  A request is sent over an open
session, which is a new one just when none is open; never are two of them open, and after the client
has been closed none is.  It also says that nothing was made up for this: what the client does with
its sessions is what a connection does, in which they are not told apart (`Sessions.view`).

The invariant is that all sessions are closed (`Idle`), or that all are but the last one, which is
the one held (`Working`).  Every event leads from one of these to one of them (`Tidy.apply`).
-/

namespace LogSearch

open Ingestion

/-- A session: whether it is open, and what was sent over it, last one last. -/
structure Session where
  isOpen : Bool
  sent : List Post

/-- The session after something was sent over it. -/
def Session.send (p : Post) (x : Session) : Session := { x with sent := x.sent ++ [p] }

/-- The session after it was closed. -/
def Session.close (x : Session) : Session := { x with isOpen := false }

/-- A client that keeps its sessions apart: those that it has made, first one first, the number of
the one that it holds, the decoder, and what the network is going to do. -/
structure Sessions where
  client : Client
  decode : Json.Decoder
  made : List Session
  held : Option Nat
  exchanges : List Exchange

namespace Sessions

/-- A client that has not done anything. -/
def new (client : Client) (decode : Json.Decoder) (exchanges : List Exchange) : Sessions :=
  ⟨client, decode, [], none, exchanges⟩

/-- The number of the session that is held, if this session is open. -/
def heldOpen? (s : Sessions) : Option Nat := s.held.filter fun k => s.made[k]?.any (·.isOpen)

/-- The number of the session for a request: the one that is held, if it is open, and otherwise a
new one, which is held from now on. -/
def acquire (s : Sessions) : Nat × Sessions :=
  match s.heldOpen? with
  | some k => (k, s)
  | none =>
    (s.made.length, { s with made := s.made ++ [⟨true, []⟩], held := some s.made.length })

/-- Posts something. -/
def post (s : Sessions) (p : Post) : Delivery × Sessions :=
  let (k, s) := s.acquire
  let e := s.exchanges.headD Connection.lastExchange
  (⟨e.response.outcome s.decode p.url, e.delay⟩,
    { s with made := s.made.modify k (·.send p), exchanges := s.exchanges.tail })

/-- Posts the body of a bulk request. -/
def bulk (s : Sessions) (body : Text) : Delivery × Sessions :=
  s.post ⟨s.client.bulkUrl, body, "application/x-ndjson"⟩

/-- Posts a search. -/
def search (s : Sessions) (index : Text) (payload : Json) : Delivery × Sessions :=
  s.post ⟨s.client.searchUrl index, Json.write payload, "application/json"⟩

/-- Closes the session that is held, if it is open, and holds none any more. -/
def close (s : Sessions) : Sessions :=
  match s.heldOpen? with
  | some k => { s with made := s.made.modify k (·.close), held := none }
  | none => { s with held := none }

/-- The session with this number is closed by somebody else. -/
def lose (s : Sessions) (number : Nat) : Sessions :=
  { s with made := s.made.modify number (·.close) }

/-- Something that may happen to a client. -/
inductive Step where
  | bulk (body : Text)
  | search (index : Text) (payload : Json)
  | close
  | lose (number : Nat)

/-- The client after an event. -/
def apply (s : Sessions) : Step → Sessions
  | .bulk body => (s.bulk body).2
  | .search index payload => (s.search index payload).2
  | .close => s.close
  | .lose number => s.lose number

/-- The client after all that has happened. -/
def run (s : Sessions) (events : List Step) : Sessions := events.foldl apply s

/-- The number of sessions that are open. -/
def openCount (s : Sessions) : Nat := s.made.countP (·.isOpen)

/-- The connection that a client is if its sessions are not told apart. -/
def view (s : Sessions) : Connection :=
  ⟨s.client, s.decode, s.heldOpen?.isSome, s.made.length, s.made.countP fun x => !x.isOpen,
    s.made.flatMap (·.sent), s.exchanges⟩

/-! ## Which sessions are open -/

/-- No session is open. -/
def Idle (s : Sessions) : Prop := ∀ x ∈ s.made, x.isOpen = false

/-- The last session is open and is the one held, and the earlier ones are closed. -/
structure Working (s : Sessions) (earlier : List Session) (sent : List Post) : Prop where
  made : s.made = earlier ++ [⟨true, sent⟩]
  held : s.held = some earlier.length
  closed : ∀ x ∈ earlier, x.isOpen = false

/-- No session is open but perhaps the last one, which is held then. -/
def Tidy (s : Sessions) : Prop := s.Idle ∨ ∃ earlier sent, s.Working earlier sent

variable {s : Sessions} {earlier : List Session} {sent : List Post}

lemma Idle.heldOpen?_eq (h : s.Idle) : s.heldOpen? = none := by
  rw [heldOpen?, Option.filter_eq_none_iff]
  intro k _ hopen
  obtain ⟨x, hx, hisOpen⟩ := (Option.any_eq_true _ _).1 hopen
  rw [h x (List.mem_of_getElem? hx)] at hisOpen
  contradiction

lemma Idle.openCount_eq (h : s.Idle) : s.openCount = 0 := by
  rw [openCount, List.countP_eq_zero]
  exact fun x hx => Bool.eq_false_iff.1 (h x hx)

lemma Working.heldOpen?_eq (h : s.Working earlier sent) : s.heldOpen? = some earlier.length := by
  have hlast : s.made[earlier.length]? = some ⟨true, sent⟩ := by
    rw [h.made, List.getElem?_concat_length]
  rw [heldOpen?, h.held, Option.filter_some, hlast]
  rfl

lemma Working.openCount_eq (h : s.Working earlier sent) : s.openCount = 1 := by
  have hearlier : earlier.countP (·.isOpen) = 0 :=
    List.countP_eq_zero.2 fun x hx => Bool.eq_false_iff.1 (h.closed x hx)
  rw [openCount, h.made, List.countP_append, hearlier]
  rfl

lemma modify_concat (l : List Session) (x : Session) (f : Session → Session) :
    (l ++ [x]).modify l.length f = l ++ [f x] := by
  rw [List.modify_eq_take_cons_drop (by simp)]
  simp

/-- A session that is closed already is not changed by being closed. -/
lemma modify_close {made : List Session} {k : Nat}
    (h : ∀ x, made[k]? = some x → x.isOpen = false) : made.modify k (·.close) = made := by
  refine List.ext_getElem? fun j => ?_
  rw [List.getElem?_modify]
  by_cases hj : k = j
  · subst hj
    cases hx : made[k]? with
    | none => rfl
    | some x =>
      obtain ⟨isOpen, sent⟩ := x
      obtain rfl : isOpen = false := h _ hx
      simp [Session.close]
  · simp [hj]

/-- A request finds a session that is open, and makes it only if there is none. -/
lemma Tidy.acquire (h : s.Tidy) :
    ∃ earlier sent, s.acquire.2.Working earlier sent ∧ s.acquire.1 = earlier.length ∧
      s.acquire.2.made.length = s.made.length + if s.openCount = 0 then 1 else 0 := by
  rcases h with h | ⟨earlier, sent, h⟩
  · rw [Sessions.acquire, h.heldOpen?_eq, h.openCount_eq]
    exact ⟨s.made, [], ⟨rfl, rfl, h⟩, rfl, List.length_append⟩
  · rw [Sessions.acquire, h.heldOpen?_eq, h.openCount_eq]
    exact ⟨earlier, sent, h, rfl, rfl⟩

/-- What is posted is sent over the session that was found. -/
lemma Tidy.post (h : s.Tidy) (p : Post) :
    ∃ earlier sent, s.acquire.2.Working earlier sent ∧ s.acquire.1 = earlier.length ∧
      (s.post p).2.Working earlier (sent ++ [p]) := by
  obtain ⟨earlier, sent, hworking, hnumber, -⟩ := h.acquire
  refine ⟨earlier, sent, hworking, hnumber, ?_, hworking.held, hworking.closed⟩
  simp only [Sessions.post, hnumber, hworking.made, modify_concat]
  rfl

lemma Tidy.tidy_post (h : s.Tidy) (p : Post) : (s.post p).2.Tidy := by
  obtain ⟨earlier, sent, -, -, hworking⟩ := h.post p
  exact .inr ⟨earlier, _, hworking⟩

lemma Tidy.idle_close (h : s.Tidy) : s.close.Idle := by
  rcases h with h | ⟨earlier, sent, h⟩
  · rw [Sessions.close, h.heldOpen?_eq]
    exact h
  · rw [Sessions.close, h.heldOpen?_eq]
    simp only [Idle, h.made, modify_concat, List.forall_mem_append, List.forall_mem_singleton]
    exact ⟨h.closed, rfl⟩

lemma Tidy.lose (h : s.Tidy) (number : Nat) : (s.lose number).Tidy := by
  have hsame (hclosed : ∀ x, s.made[number]? = some x → x.isOpen = false) : s.lose number = s := by
    rw [Sessions.lose, modify_close hclosed]
  rcases h with hidle | ⟨earlier, sent, hworking⟩
  · rw [hsame fun x hx => hidle x (List.mem_of_getElem? hx)]
    exact .inl hidle
  · by_cases hlast : number = earlier.length
    · refine .inl ?_
      simp only [Idle, Sessions.lose, hlast, hworking.made, modify_concat,
        List.forall_mem_append, List.forall_mem_singleton]
      exact ⟨hworking.closed, rfl⟩
    · have hclosed : ∀ x, s.made[number]? = some x → x.isOpen = false := by
        intro x hx
        rw [hworking.made, List.getElem?_append] at hx
        split at hx
        next => exact hworking.closed x (List.mem_of_getElem? hx)
        next =>
          have hpast : number - earlier.length ≠ 0 := by omega
          simp [hpast] at hx
      rw [hsame hclosed]
      exact .inr ⟨earlier, sent, hworking⟩

/-- Whatever happens, no session is open but perhaps the last one. -/
lemma Tidy.apply (h : s.Tidy) (step : Step) : (s.apply step).Tidy := by
  cases step with
  | bulk body => exact h.tidy_post _
  | search index payload => exact h.tidy_post _
  | close => exact .inl h.idle_close
  | lose number => exact h.lose number

lemma Tidy.run (h : s.Tidy) (steps : List Step) : (s.run steps).Tidy := by
  induction steps generalizing s with
  | nil => exact h
  | cons step steps ih => exact ih (h.apply step)

/-! ## The connection -/

lemma Idle.view_eq (h : s.Idle) :
    s.view = ⟨s.client, s.decode, false, s.made.length, s.made.length,
      s.made.flatMap (·.sent), s.exchanges⟩ := by
  have hclosed : s.made.countP (fun x => !x.isOpen) = s.made.length :=
    List.countP_eq_length.2 fun x hx => by rw [h x hx]; rfl
  rw [view, h.heldOpen?_eq, hclosed]
  rfl

lemma Working.view_eq (h : s.Working earlier sent) :
    s.view = ⟨s.client, s.decode, true, earlier.length + 1, earlier.length,
      earlier.flatMap (·.sent) ++ sent, s.exchanges⟩ := by
  have hclosed : earlier.countP (fun x => !x.isOpen) = earlier.length :=
    List.countP_eq_length.2 fun x hx => by rw [h.closed x hx]; rfl
  rw [view, h.heldOpen?_eq, h.made, List.countP_append, hclosed]
  simp

lemma Tidy.view_acquire (h : s.Tidy) : s.acquire.2.view = s.view.withSession := by
  rcases h with h | ⟨earlier, sent, h⟩
  · have hnew : s.acquire.2.Working s.made [] := by
      rw [Sessions.acquire, h.heldOpen?_eq]
      exact ⟨rfl, rfl, h⟩
    rw [hnew.view_eq, h.view_eq, Sessions.acquire, h.heldOpen?_eq]
    simp [Connection.withSession]
  · rw [Sessions.acquire, h.heldOpen?_eq, h.view_eq]
    rfl

/-- What is posted is what the connection posts, to the same effect. -/
lemma Tidy.view_post (h : s.Tidy) (p : Post) :
    ((s.post p).1, (s.post p).2.view) = s.view.post p := by
  obtain ⟨earlier, sent, hready, -, hposted⟩ := h.post p
  have hsession := h.view_acquire
  rw [hready.view_eq] at hsession
  have hclient : (s.post p).2.client = s.acquire.2.client := rfl
  have hdecode : (s.post p).2.decode = s.acquire.2.decode := rfl
  have hexchanges : (s.post p).2.exchanges = s.acquire.2.exchanges.tail := rfl
  rw [Connection.post, ← hsession, hposted.view_eq, hclient, hdecode, hexchanges,
    List.append_assoc]
  rfl

lemma Tidy.view_close (h : s.Tidy) : s.close.view = s.view.close.1 := by
  have hclosed := h.idle_close
  rcases h with h | ⟨earlier, sent, h⟩
  · rw [hclosed.view_eq, h.view_eq, Sessions.close, h.heldOpen?_eq]
    rfl
  · rw [hclosed.view_eq, h.view_eq, Sessions.close, h.heldOpen?_eq]
    simp only [h.made, modify_concat]
    simp [Connection.close, Session.close]

/-- **A client takes care of its sessions.**  Whatever was asked of it and whatever happened to its
sessions and to what it sent,
* at most one session is open;
* a request is sent over a session that is open then, and a new one is made for it just when none is
  open;
* after the client was closed none is open, and neither this nor the loss of a session makes one;
* and what it does is what a connection does, in which its sessions are not told apart. -/
theorem sessions_in_order (client : Client) (decode : Json.Decoder) (exchanges : List Exchange)
    (steps : List Step) :
    let s := (new client decode exchanges).run steps
    s.openCount ≤ 1 ∧
      (∀ p : Post, ∃ number ready session, s.acquire = (number, ready) ∧ ready.openCount = 1 ∧
        ready.made[number]? = some session ∧ session.isOpen ∧
        (s.post p).2.made = ready.made.set number (session.send p) ∧
        (s.post p).2.made.length = s.made.length + if s.openCount = 0 then 1 else 0) ∧
      (s.close.openCount = 0 ∧ s.close.made.length = s.made.length ∧
        ∀ number, (s.lose number).made.length = s.made.length) ∧
      ((new client decode exchanges).view = Connection.new client decode exchanges ∧
        (∀ p : Post, ((s.post p).1, (s.post p).2.view) = s.view.post p) ∧
        s.close.view = s.view.close.1) := by
  intro s
  have hnew : (new client decode exchanges).Idle := List.forall_mem_nil _
  have htidy : s.Tidy := Tidy.run (.inl hnew) steps
  refine ⟨?_, fun p => ?_, ⟨htidy.idle_close.openCount_eq, ?_, fun number => ?_⟩, rfl,
    htidy.view_post, htidy.view_close⟩
  · rcases htidy with h | ⟨earlier, sent, h⟩
    · rw [h.openCount_eq]
      exact Nat.zero_le 1
    · exact Nat.le_of_eq h.openCount_eq
  · obtain ⟨-, -, -, -, hmade⟩ := htidy.acquire
    obtain ⟨earlier, sent, hready, hnumber, hposted⟩ := htidy.post p
    refine ⟨s.acquire.1, s.acquire.2, ⟨true, sent⟩, rfl, hready.openCount_eq, ?_, rfl, ?_, ?_⟩
    · rw [hnumber, hready.made, List.getElem?_concat_length]
    · rw [hnumber, hposted.made, hready.made, List.set_append_right _ _ (Nat.le_refl _)]
      simp [Session.send]
    · rw [← hmade, hposted.made, hready.made, List.length_append, List.length_append]
      rfl
  · rw [Sessions.close]
    split
    · exact List.length_modify ..
    · rfl
  · exact List.length_modify ..

end Sessions

end LogSearch
