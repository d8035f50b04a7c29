import LogSearch.Proofs.Ingestion.Accounts
import LogSearch.Proofs.Ingestion.Awaiting
import LogSearch.Search.Client

/-!
# The client as a scripted sink

What comes of reading files is stated with a sink that answers from a script and keeps the batches
that it was sent.  The service has the client of the search backend in its place, which posts the
bodies of requests and answers with what the network does.  This file says that it makes no
difference.

A reading knows of a sink no more than how its outcomes are booked.  If two sinks answer alike in
this respect, whatever batches they are sent (`AnswersAlike`), then reading a file with the one and
with the other comes to the same (`Collector.matched_tail`).  The client answers like the sink whose
script is what the network is going to do, and what it posts are the bodies of the batches
(`Connection.answersAlike_follows`).  So `Collector.exists_awaited_tail_scripted` makes a statement
about the client out of one about scripted sinks.
-/

namespace LogSearch.Ingestion

/-! ## Sinks that answer alike -/

/-- The relation between two kinds of sinks is kept up by batches for the index, and the outcomes
are booked in the same way. -/
def AnswersAlike {σ τ : Type} [Sink σ] [Sink τ] (index : Text) (R : σ → τ → Prop) : Prop :=
  ∀ s t batch, R s t →
    (∀ (o : Outbox) (size : Nat), o.settle size (Sink.bulk s index batch).1.outcome =
      o.settle size (Sink.bulk t index batch).1.outcome) ∧
    R (Sink.bulk s index batch).2 (Sink.bulk t index batch).2

namespace Collector

variable {σ τ : Type}

/-- The collector with another sink. -/
def withSink (c : Collector σ) (sink : τ) : Collector τ := { c with sink := sink }

/-- Two readings with prompt sinks have come to the same, but for the sinks, which are related. -/
def Matched (index : Text) (R : σ → τ → Prop) (r : Collector (Prompt σ) × FileResult)
    (r' : Collector (Prompt τ) × FileResult) : Prop :=
  ∃ (c : Collector σ) (t : τ) (result : FileResult), r = (c.prompt, result) ∧
    r' = ((c.withSink t).prompt, result) ∧ c.outbox.index = index ∧ R c.sink t

variable [Sink σ] [Sink τ] {index : Text} {R : σ → τ → Prop} {site : Site} {c : Collector σ} {t : τ}
  {f : OpenFile}

omit [Sink σ] [Sink τ] in
lemma Matched.same (hindex : c.outbox.index = index) (hrelated : R c.sink t) (result : FileResult) :
    Matched index R (c.prompt, result) ((c.withSink t).prompt, result) :=
  ⟨c, t, result, rfl, rfl, hindex, hrelated⟩

lemma matched_send (halike : AnswersAlike index R) (hindex : c.outbox.index = index)
    (hrelated : R c.sink t) {atEnd : Bool}
    {next : Collector (Prompt σ) → Collector (Prompt σ) × FileResult}
    {next' : Collector (Prompt τ) → Collector (Prompt τ) × FileResult}
    (hnext : ∀ (c₁ : Collector σ) (t₁ : τ), c₁.outbox.index = index → R c₁.sink t₁ →
      Matched index R (next c₁.prompt) (next' (c₁.withSink t₁).prompt)) :
    Matched index R (c.prompt.send f atEnd next) ((c.withSink t).prompt.send f atEnd next') := by
  obtain ⟨houtcomes, hlater⟩ := halike c.sink t c.outbox.pending hrelated
  have hsettle : (c.withSink t).dispatch.2.2.settle (c.withSink t).dispatch.1.length
        (c.withSink t).dispatch.2.1.outcome =
      ((c.dispatch.2.2.settle c.dispatch.1.length c.dispatch.2.1.outcome).1.withSink
          (Sink.bulk t index c.outbox.pending).2,
        (c.dispatch.2.2.settle c.dispatch.1.length c.dispatch.2.1.outcome).2) := by
    subst hindex
    have hbooked := houtcomes c.outbox.empty c.outbox.pending.length
    simp only [settle, dispatch, withSink, hbooked]
  have hindex₁ : (c.dispatch.2.2.settle c.dispatch.1.length
      c.dispatch.2.1.outcome).1.outbox.index = index :=
    (Outbox.settle_frame _ _ _).1.trans hindex
  have hrelated₁ : R (c.dispatch.2.2.settle c.dispatch.1.length c.dispatch.2.1.outcome).1.sink
      (Sink.bulk t index c.outbox.pending).2 := by
    subst hindex
    exact hlater
  rw [prompt_send, prompt_send, hsettle]
  rcases hresult : c.dispatch.2.2.settle c.dispatch.1.length c.dispatch.2.1.outcome with
    ⟨c₁, fault | n⟩
  all_goals rw [hresult] at hindex₁ hrelated₁
  · exact .same hindex₁ hrelated₁ _
  · exact hnext c₁ _ hindex₁ hrelated₁

omit [Sink σ] [Sink τ] in
lemma matched_complete (hindex : c.outbox.index = index) (hrelated : R c.sink t) :
    Matched index R (c.prompt.complete f) ((c.withSink t).prompt.complete f) :=
  ⟨(c.complete f).1, t, _, rfl, rfl, hindex, hrelated⟩

lemma matched_finishFile (halike : AnswersAlike index R) (hindex : c.outbox.index = index)
    (hrelated : R c.sink t) :
    Matched index R (c.prompt.finishFile f) ((c.withSink t).prompt.finishFile f) := by
  have hpending : (c.withSink t).prompt.outbox.pending = c.prompt.outbox.pending := rfl
  rw [finishFile_eq, finishFile_eq, hpending]
  split
  · exact matched_complete hindex hrelated
  · exact matched_send halike hindex hrelated fun c₁ t₁ => matched_complete

omit [Sink σ] [Sink τ] in
lemma accept_withSink (site : Site) (c : Collector σ) (t : τ) (source : Text) (line : Bytes) :
    (c.withSink t).accept site source line =
      ((c.accept site source line).1.withSink t, (c.accept site source line).2) := by
  rw [accept, accept]
  split <;> rfl

lemma matched_readLines (halike : AnswersAlike index R) (hindex : c.outbox.index = index)
    (hrelated : R c.sink t) (lines : List Bytes) :
    Matched index R (c.prompt.readLines site f lines)
      ((c.withSink t).prompt.readLines site f lines) := by
  induction lines generalizing c t f with
  | nil =>
    rw [readLines_nil, readLines_nil]
    split
    · exact .same hindex hrelated _
    · exact matched_finishFile halike hindex hrelated
  | cons line rest ih =>
    have haccept := accept_index site c f.path line
    have hsink := accept_sink site c f.path line
    rw [readLines_cons, readLines_cons, prompt_accept, prompt_accept, accept_withSink]
    split
    · exact .same hindex hrelated _
    · rcases hresult : c.accept site f.path line with ⟨c₁, result⟩
      rw [hresult] at haccept hsink
      replace hindex : c₁.outbox.index = index := haccept.trans hindex
      replace hrelated : R c₁.sink t := hsink.symm ▸ hrelated
      rcases result with fault | _ | d
      · exact .same hindex hrelated _
      · exact ih hindex hrelated
      · have hfull : (c₁.withSink t).prompt.outbox.isFull = c₁.prompt.outbox.isFull := rfl
        dsimp only
        rw [hfull]
        split
        · exact matched_send halike hindex hrelated fun c₂ t₂ => ih
        · exact ih hindex hrelated

/-- **A reading sees no more of a sink than how it answers.**  Sinks that answer alike are posted
the same batches, and what has been read is the same. -/
lemma matched_tail (halike : AnswersAlike index R) (hindex : c.outbox.index = index)
    (hrelated : R c.sink t) (site : Site) (path : Text) :
    Matched index R (c.prompt.tail site path) ((c.withSink t).prompt.tail site path) := by
  have hfiles : (c.withSink t).prompt.files = c.prompt.files := rfl
  have hoffset : (c.withSink t).prompt.offset path = c.prompt.offset path := rfl
  rw [tail, tail, hfiles]
  split
  · exact .same hindex hrelated _
  · cases c.prompt.files.find path with
    | vacant place => exact .same hindex hrelated _
    | missing => exact .same hindex hrelated _
    | unreachable fault => exact .same hindex hrelated _
    | directory place =>
      exact ⟨c.report .warning ("Configured log path is not a file: " ++ path), t, _, rfl, rfl,
        hindex, hrelated⟩
    | file number =>
      simp only [readFile, hfiles, hoffset]
      split
      · exact matched_readLines halike (c := { c.report .info (rotationMessage path
          (c.prompt.files.content number).length (c.prompt.offset path)) with
            rotations := c.rotations + 1 }) hindex hrelated _
      · split
        · exact .same hindex hrelated _
        · exact matched_readLines halike hindex hrelated _

end Collector

end LogSearch.Ingestion

/-! ## The client -/

namespace LogSearch

open Ingestion

/-- What is posted for a batch. -/
def Client.bulkPost (client : Client) (index : Text) (batch : List Document) : Post :=
  ⟨client.bulkUrl, Bulk.body index batch, "application/x-ndjson"⟩

namespace Connection

/-- What comes of the batches that are going to be posted, if nothing else is. -/
def deliveries (c : Connection) : List Delivery :=
  c.exchanges.map fun e => ⟨e.response.outcome c.decode c.client.bulkUrl, e.delay⟩

/-- The empty object, with which the network responds after all that was foreseen, is decoded. -/
def ReadsLast (c : Connection) : Prop := c.decode (Utf8.encode ['\x7b', '\x7d']) = .ok (.object [])

/-- The sink that answers as the network is going to. -/
def scripted (c : Connection) : ScriptedSink := ⟨c.deliveries, [], []⟩

/-- Since it was `before`, the connection has posted the batches that the sink was sent, and the
network goes on with the script of the sink. -/
structure Follows (before : Connection) (index : Text) (c : Connection) (s : ScriptedSink) :
    Prop where
  client : c.client = before.client
  readsLast : c.ReadsLast
  script : s.script = c.deliveries
  posts : c.posts = before.posts ++ s.batches.map (before.client.bulkPost index)

variable {before c : Connection} {index : Text} {s : ScriptedSink}

lemma follows_scripted (h : c.ReadsLast) (index : Text) : Follows c index c c.scripted :=
  ⟨rfl, h, rfl, (List.append_nil _).symm⟩

@[simp] lemma withSession_client (c : Connection) : c.withSession.client = c.client := by
  rw [withSession]
  split <;> rfl

@[simp] lemma withSession_decode (c : Connection) : c.withSession.decode = c.decode := by
  rw [withSession]
  split <;> rfl

@[simp] lemma withSession_posts (c : Connection) : c.withSession.posts = c.posts := by
  rw [withSession]
  split <;> rfl

@[simp] lemma withSession_exchanges (c : Connection) :
    c.withSession.exchanges = c.exchanges := by
  rw [withSession]
  split <;> rfl

lemma post_frame (c : Connection) (p : Post) :
    (c.post p).2.client = c.client ∧ (c.post p).2.decode = c.decode ∧
      (c.post p).2.posts = c.posts ++ [p] ∧ (c.post p).2.exchanges = c.exchanges.tail := by
  refine ⟨c.withSession_client, c.withSession_decode, ?_, ?_⟩
  · rw [post, withSession_posts]
  · rw [post, withSession_exchanges]

/-- An outcome with an empty object is booked like the one with which scripts end. -/
lemma settle_lastExchange (h : c.ReadsLast) (o : Outbox) (size : Nat) (url : Text) :
    o.settle size (lastExchange.response.outcome c.decode url) =
      o.settle size ScriptedSink.lastDelivery.outcome := by
  have hreply : lastExchange.response.outcome c.decode url = .reply (.object []) := by
    rw [lastExchange, Response.outcome, if_neg (by decide), h]
  rw [hreply]
  rfl

lemma settle_bulk (h : Follows before index c s) (o : Outbox) (size : Nat) (batch : List Document) :
    o.settle size (Sink.bulk c index batch).1.outcome =
      o.settle size (Sink.bulk s index batch).1.outcome := by
  have houtcome : (Sink.bulk c index batch).1.outcome =
      (c.exchanges.headD lastExchange).response.outcome c.decode c.client.bulkUrl := by
    rw [← withSession_exchanges, ← withSession_decode]
    rfl
  rw [houtcome]
  obtain ⟨script, batches, bodies⟩ := s
  obtain rfl : script = c.deliveries := h.script
  rw [deliveries]
  cases c.exchanges with
  | nil => exact settle_lastExchange h.readsLast o size _
  | cons e rest => rfl

/-- The client answers batches as the sink whose script is what the network is going to do, and
posts their bodies. -/
lemma answersAlike_follows (before : Connection) (index : Text) :
    AnswersAlike index (Follows before index) := by
  intro c s batch h
  obtain ⟨hclient, hdecode, hposts, hexchanges⟩ := c.post_frame (c.client.bulkPost index batch)
  refine ⟨fun o size => settle_bulk h o size batch, hclient.trans h.client, ?_, ?_, ?_⟩
  · have hreads := h.readsLast
    rw [ReadsLast, ← hdecode] at hreads
    exact hreads
  · have hscript : (c.post (c.client.bulkPost index batch)).2.deliveries = c.deliveries.tail := by
      rw [deliveries, hclient, hdecode, hexchanges, List.map_tail, deliveries]
    rw [ScriptedSink.script_bulk, h.script]
    exact hscript.symm
  · rw [ScriptedSink.batches_bulk, List.map_append, ← List.append_assoc, ← h.posts, ← h.client]
    exact hposts

end Connection

/-- What comes of reading a file with a scripted sink comes of reading it with the client, and the
client has posted the batches that the sink was sent. -/
lemma Ingestion.Collector.exists_awaited_tail_scripted {site : Site} {c : Collector Connection}
    {path : Text} {m : Collector ScriptedSink} {result : FileResult} (hlast : c.sink.ReadsLast)
    (h : awaited site ((c.withSink c.sink.scripted).tail site path) = (m, result)) :
    ∃ c', awaited site (c.tail site path) = (c', result) ∧ m = c'.withSink m.sink ∧
      c'.sink.posts =
        c.sink.posts ++ m.sink.batches.map (c.sink.client.bulkPost c.outbox.index) := by
  obtain ⟨c', s, result', hclient, hscripted, -, hfollows⟩ :=
    matched_tail (c.sink.answersAlike_follows c.outbox.index) rfl
      (Connection.follows_scripted hlast c.outbox.index) site path
  have hprompt := (prompt_awaited_tail site (c.withSink c.sink.scripted) path).trans hscripted
  have hboth : (m, result) = (c'.withSink s, result') := h.symm.trans (eq_of_prompt_eq hprompt)
  obtain ⟨rfl, rfl⟩ := Prod.mk.inj hboth
  exact ⟨c', eq_of_prompt_eq ((prompt_awaited_tail site c path).trans hclient), rfl,
    hfollows.posts⟩

end LogSearch
