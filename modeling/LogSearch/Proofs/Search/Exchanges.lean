import LogSearch.Ingestion.Outbox
import LogSearch.Proofs.Json.Encoding
import LogSearch.Search.Client

/-!
# How exchanges end

An exchange fails, or there is a response with some bytes as its body.  The body may be blank or a
JSON object, and then the request has a reply; anything else is unusable (`Response.IsUnusable`).
What JSON is, and what a text in UTF-8, is said without the readers of this library.

The client has its JSON decoded by somebody else.  What is known of such a decoder is
`Json.Conforms`: it decodes JSON within limits of its own, which are left open, and within them it
breaks off just at a text that is not UTF-8.  The reader of this library is a decoder whose limits
are never met (`Json.conforms_decoder`).

`Connection.exchanges_end` says which response leads to which outcome, for batches and for searches,
and how the outbox books the batch.  An unusable response leaves the batch among the dropped
documents with one exception: a body at which the decoder breaks off.  Such a body ends the sending,
with the batch on no book (`Connection.dropped_uncounted`).  No body in UTF-8 that is within the
limits is of this kind.
-/

namespace LogSearch

open Ingestion

/-! ## Decoders -/

namespace Json

/-- What is known of a decoder.  It decodes the JSON documents that fit its limits and nothing else.
Of the other inputs that fit them it refuses those that are no JSON, but breaks off where they are
JSON up to the end of a text that is not UTF-8.  Nothing is known of what does not fit. -/
structure Conforms (decode : Decoder) (fits : Bytes → Prop) : Prop where
  reads (bytes : Bytes) (j : Json) : decode bytes = .ok j ↔ IsDocument bytes j ∧ fits bytes
  breaksOff (bytes : Bytes) (h : fits bytes) :
    (∃ message, decode bytes = .error (.broken message)) ↔ BreaksOff .element bytes

/-- Everything fits the decoder without limits. -/
lemma conforms_decoder : Conforms decoder fun _ => True where
  reads bytes j := by
    rw [decoder, Except.mapError_eq_ok_iff, read_eq_ok_iff, and_true]
  breaksOff bytes _ := by
    rw [← read_eq_encoding_iff, decoder]
    cases read strict bytes with
    | ok j => simp [Except.mapError]
    | error fault => cases fault <;> simp [Except.mapError]

end Json

/-! ## Responses -/

namespace Response

/-- The body consists of white space of ASCII. -/
def IsBlank (r : Response) : Prop :=
  ∃ bytes, r = .body bytes ∧ ∀ b ∈ bytes, b ∈ ([9, 10, 11, 12, 13, 32] : Bytes)

/-- The body is a JSON object with the members. -/
def IsObject (r : Response) (members : List (Text × Json)) : Prop :=
  ∃ bytes, r = .body bytes ∧ Json.IsDocument bytes (.object members)

/-- There is no body that is blank or a JSON object. -/
def IsUnusable (r : Response) : Prop := ¬ r.IsBlank ∧ ∀ members, ¬ r.IsObject members

/-- The body is JSON up to the end of a text that is not UTF-8. -/
def BreaksOff (r : Response) : Prop :=
  ∃ bytes, r = .body bytes ∧ Json.BreaksOff .element bytes

/-- The body, if there is one, fits the limits of the decoder. -/
def Fits (r : Response) (fits : Bytes → Prop) : Prop := ∀ bytes, r = .body bytes → fits bytes

/-- The outcome is right for the response.  What does not fit the decoder has no reply unless it is
blank, but which fault it leads to is left open. -/
structure EndsIn (fits : Bytes → Prop) (r : Response) (outcome : Outcome) : Prop where
  blank : outcome = .reply .null ↔ r.IsBlank
  object (members : List (Text × Json)) :
    outcome = .reply (.object members) ↔ r.IsObject members ∧ r.Fits fits
  unavailable (h : r.Fits fits) :
    (∃ message, outcome = .unavailable message) ↔ r.IsUnusable ∧ ¬ r.BreaksOff
  undecodable (h : r.Fits fits) : (∃ message, outcome = .undecodable message) ↔ r.BreaksOff
  beyond (h : ¬ r.Fits fits) (hblank : ¬ r.IsBlank) :
    (∃ message, outcome = .unavailable message) ∨ ∃ message, outcome = .undecodable message

section Outcomes

variable {r : Response} {bytes : Bytes} {members : List (Text × Json)} {j : Json}
  {fits : Bytes → Prop} {decode : Json.Decoder}

lemma isBlank_body_iff : (body bytes).IsBlank ↔
    (bytes.all fun b => b.toNat < 128 && Text.isAsciiBlank (Char.ofNat b.toNat)) = true := by
  have hbyte : ∀ b : UInt8, (b.toNat < 128 && Text.isAsciiBlank (Char.ofNat b.toNat)) = true ↔
      b ∈ ([9, 10, 11, 12, 13, 32] : Bytes) := Utf8.forall_byte (by decide +kernel)
  simp only [List.all_eq_true, hbyte]
  constructor
  · rintro ⟨_, hbody, h⟩
    obtain rfl := body.inj hbody
    exact h
  · exact fun h => ⟨bytes, rfl, h⟩

lemma isObject_body_iff :
    (body bytes).IsObject members ↔ Json.IsDocument bytes (.object members) := by
  constructor
  · rintro ⟨_, hbody, h⟩
    obtain rfl := body.inj hbody
    exact h
  · exact fun h => ⟨bytes, rfl, h⟩

lemma breaksOff_body_iff : (body bytes).BreaksOff ↔ Json.BreaksOff .element bytes := by
  constructor
  · rintro ⟨_, hbody, h⟩
    obtain rfl := body.inj hbody
    exact h
  · exact fun h => ⟨bytes, rfl, h⟩

lemma fits_body_iff : (body bytes).Fits fits ↔ fits bytes := by
  constructor
  · exact fun h => h bytes rfl
  · intro h _ hbody
    obtain rfl := body.inj hbody
    exact h

/-- Blank bytes have nothing that an element begins with. -/
lemma not_mem_of_isBlank (h : (body bytes).IsBlank) : ¬ ∃ b ∈ bytes, 32 < b.toNat := by
  obtain ⟨_, hbody, h⟩ := h
  obtain rfl := body.inj hbody
  rintro ⟨b, hb, hlow⟩
  have hblank := h b hb
  simp only [List.mem_cons, List.not_mem_nil, or_false] at hblank
  rcases hblank with rfl | rfl | rfl | rfl | rfl | rfl <;> contradiction

lemma not_isObject_of_isBlank (h : r.IsBlank) : ¬ r.IsObject members := by
  rintro ⟨bytes, rfl, hdocument⟩
  exact not_mem_of_isBlank h hdocument.exists_mem

lemma not_breaksOff_of_isBlank (h : r.IsBlank) : ¬ r.BreaksOff := by
  rintro ⟨bytes, rfl, hbreaks⟩
  exact not_mem_of_isBlank h hbreaks.exists_mem

lemma not_breaksOff_of_isObject (h : r.IsObject members) : ¬ r.BreaksOff := by
  obtain ⟨bytes, rfl, hdocument⟩ := h
  rw [breaksOff_body_iff, ← Json.read_eq_encoding_iff, Json.read_eq_ok_iff.2 hdocument]
  simp

/-- What breaks off is neither blank nor an object. -/
lemma BreaksOff.isUnusable (h : r.BreaksOff) : r.IsUnusable :=
  ⟨fun hblank => not_breaksOff_of_isBlank hblank h,
    fun _ hobject => not_breaksOff_of_isObject hobject h⟩

lemma not_isUnusable_of_isBlank (h : r.IsBlank) : ¬ r.IsUnusable := fun hr => hr.1 h

lemma not_isUnusable_of_isObject (h : r.IsObject members) : ¬ r.IsUnusable :=
  fun hr => hr.2 members h

lemma isObject_unique {members' : List (Text × Json)} (h : r.IsObject members)
    (h' : r.IsObject members') : members = members' := by
  obtain ⟨bytes, rfl, hdocument⟩ := h
  have hread := Json.read_eq_ok_iff.2 (isObject_body_iff.1 h')
  rw [Json.read_eq_ok_iff.2 hdocument] at hread
  exact Json.object.inj (Except.ok.inj hread)

/-! ### The outcomes one by one -/

lemma endsIn_null (h : r.IsBlank) : r.EndsIn fits (.reply .null) where
  blank := by simp [h]
  object members := by simp [not_isObject_of_isBlank h]
  unavailable _ := by simp [not_isUnusable_of_isBlank h]
  undecodable _ := by simp [not_breaksOff_of_isBlank h]
  beyond _ hblank := absurd h hblank

lemma endsIn_object (h : r.IsObject members) (hfits : r.Fits fits) :
    r.EndsIn fits (.reply (.object members)) where
  blank := by simpa using fun hblank => not_isObject_of_isBlank hblank h
  object members' := by
    constructor
    · intro heq
      obtain rfl := Json.object.inj (Outcome.reply.inj heq)
      exact ⟨h, hfits⟩
    · rintro ⟨h', -⟩
      rw [isObject_unique h h']
  unavailable _ := by simp [not_isUnusable_of_isObject h]
  undecodable _ := by simp [not_breaksOff_of_isObject h]
  beyond hbeyond _ := absurd hfits hbeyond

lemma endsIn_unavailable (message : Text) (hblank : ¬ r.IsBlank)
    (h : r.Fits fits → r.IsUnusable ∧ ¬ r.BreaksOff) : r.EndsIn fits (.unavailable message) where
  blank := by simp [hblank]
  object members := by
    simp only [reduceCtorEq, false_iff]
    rintro ⟨hobject, hfits⟩
    exact (h hfits).1.2 members hobject
  unavailable hfits := by simp [h hfits]
  undecodable hfits := by simp [h hfits]
  beyond _ _ := .inl ⟨message, rfl⟩

lemma endsIn_undecodable (message : Text) (hblank : ¬ r.IsBlank)
    (h : r.Fits fits → r.BreaksOff) : r.EndsIn fits (.undecodable message) where
  blank := by simp [hblank]
  object members := by
    simp only [reduceCtorEq, false_iff]
    rintro ⟨hobject, hfits⟩
    exact not_breaksOff_of_isObject hobject (h hfits)
  unavailable hfits := by simp [h hfits]
  undecodable hfits := by simp [h hfits]
  beyond _ _ := .inr ⟨message, rfl⟩

/-- What is not decoded is unusable. -/
lemma isUnusable_of_decode {fault : Json.DecodeFault} (hdecode : Json.Conforms decode fits)
    (hblank : ¬ (body bytes).IsBlank) (hfits : (body bytes).Fits fits)
    (h : decode bytes = .error fault) : (body bytes).IsUnusable := by
  refine ⟨hblank, fun members hobject => ?_⟩
  have hread := (hdecode.reads bytes _).2 ⟨isObject_body_iff.1 hobject, fits_body_iff.1 hfits⟩
  rw [h] at hread
  contradiction

/-- The client tells the responses apart. -/
lemma endsIn_outcome (hdecode : Json.Conforms decode fits) (r : Response) (url : Text) :
    r.EndsIn fits (r.outcome decode url) := by
  cases r with
  | failure message =>
    refine endsIn_unavailable _ ?_ fun _ => ⟨⟨?_, fun members => ?_⟩, ?_⟩
    all_goals
      rintro ⟨bytes, h, -⟩
      contradiction
  | body bytes =>
    rw [outcome]
    by_cases hblank : (body bytes).IsBlank
    · rw [if_pos (isBlank_body_iff.1 hblank)]
      exact endsIn_null hblank
    rw [if_neg (mt isBlank_body_iff.2 hblank)]
    cases hread : decode bytes with
    | error fault =>
      cases fault with
      | refused =>
        refine endsIn_unavailable _ hblank fun hfits =>
          ⟨isUnusable_of_decode hdecode hblank hfits hread, fun hbreaks => ?_⟩
        obtain ⟨message, hmessage⟩ :=
          (hdecode.breaksOff bytes (fits_body_iff.1 hfits)).2 (breaksOff_body_iff.1 hbreaks)
        simp [hread] at hmessage
      | broken message =>
        exact endsIn_undecodable _ hblank fun hfits =>
          breaksOff_body_iff.2
            ((hdecode.breaksOff bytes (fits_body_iff.1 hfits)).1 ⟨message, hread⟩)
    | ok j =>
      obtain ⟨hdocument, hfits⟩ := (hdecode.reads bytes j).1 hread
      have hunusable (hj : ∀ members, j ≠ .object members) :
          (body bytes).IsUnusable ∧ ¬ (body bytes).BreaksOff := by
        refine ⟨⟨hblank, fun members hobject => ?_⟩, fun hbreaks => ?_⟩
        · have hobject := (hdecode.reads bytes _).2 ⟨isObject_body_iff.1 hobject, hfits⟩
          exact hj members (Except.ok.inj (hread.symm.trans hobject))
        · obtain ⟨message, hmessage⟩ :=
            (hdecode.breaksOff bytes hfits).2 (breaksOff_body_iff.1 hbreaks)
          simp [hread] at hmessage
      cases j with
      | object members =>
        exact endsIn_object (isObject_body_iff.2 hdocument) (fits_body_iff.2 hfits)
      | null | bool | int | float | text | list =>
        exact endsIn_unavailable _ hblank fun _ => hunusable fun members => by simp

end Outcomes

end Response

/-! ## Exchanges -/

namespace Connection

/-- What the network responds to the next request. -/
def response (c : Connection) : Response := (c.exchanges.headD lastExchange).response

lemma outcome_post (c : Connection) (p : Post) :
    (c.post p).1.outcome = c.response.outcome c.decode p.url := by
  have hsession : c.withSession.exchanges = c.exchanges ∧ c.withSession.decode = c.decode := by
    unfold withSession
    split <;> exact ⟨rfl, rfl⟩
  rw [post, response, hsession.1, hsession.2]

end Connection

/-- The batch that waited in the outbox was dropped, and is on the books. -/
structure Ingestion.Settlement.Drops (before : Outbox) (after : Settlement) : Prop where
  result : after.result = .ok 0
  outbox : after.outbox = { before with
    pending := [], failedBatches := before.failedBatches + 1
    dropped := before.dropped + before.pending.length }

/-- The batch that waited in the outbox is on no book, and the sending has ended with a fault. -/
structure Ingestion.Settlement.Loses (before : Outbox) (after : Settlement) : Prop where
  result : ∃ message, after.result = .error (.undecodable message)
  outbox : after.outbox = { before with pending := [] }

/-- The batch that waited in the outbox is booked as the response to it calls for. -/
structure Response.Books (fits : Bytes → Prop) (r : Response) (before : Outbox)
    (after : Settlement) : Prop where
  shipped (h : r.IsBlank ∨ r.Fits fits ∧ ¬ r.IsUnusable) :
    after.outbox = { before with
      pending := [], batchesSent := before.batchesSent + 1
      shipped := before.shipped + before.pending.length }
  dropped (hfits : r.Fits fits) (h : r.IsUnusable) (hbreaks : ¬ r.BreaksOff) : after.Drops before
  lost (hfits : r.Fits fits) (h : r.BreaksOff) : after.Loses before
  beyond (h : ¬ r.Fits fits) (hblank : ¬ r.IsBlank) : after.Drops before ∨ after.Loses before

lemma Response.EndsIn.books {fits : Bytes → Prop} {r : Response} {outcome : Outcome}
    (h : r.EndsIn fits outcome) (o : Outbox) :
    r.Books fits o (o.empty.settle o.pending.length outcome) := by
  have hreplies (hr : r.IsBlank ∨ r.Fits fits ∧ ¬ r.IsUnusable) :
      ∃ body, outcome = .reply body := by
    rcases hr with hblank | ⟨hfits, husable⟩
    · exact ⟨_, h.blank.2 hblank⟩
    · by_contra hnone
      cases outcome with
      | reply body => exact hnone ⟨body, rfl⟩
      | unavailable message => exact husable ((h.unavailable hfits).1 ⟨message, rfl⟩).1
      | undecodable message => exact husable ((h.undecodable hfits).1 ⟨message, rfl⟩).isUnusable
  have hdrops (hr : ∃ message, outcome = .unavailable message) :
      (o.empty.settle o.pending.length outcome).Drops o := by
    obtain ⟨message, rfl⟩ := hr
    exact ⟨rfl, rfl⟩
  have hloses (hr : ∃ message, outcome = .undecodable message) :
      (o.empty.settle o.pending.length outcome).Loses o := by
    obtain ⟨message, rfl⟩ := hr
    exact ⟨⟨message, rfl⟩, rfl⟩
  refine ⟨fun hr => ?_, fun hfits hunusable hbreaks => ?_, fun hfits hbreaks => ?_,
    fun hbeyond hblank => ?_⟩
  · obtain ⟨body, rfl⟩ := hreplies hr
    unfold Outbox.settle
    dsimp only
    split <;> rfl
  · exact hdrops ((h.unavailable hfits).2 ⟨hunusable, hbreaks⟩)
  · exact hloses ((h.undecodable hfits).2 hbreaks)
  · exact (h.beyond hbeyond hblank).imp hdrops hloses

namespace Connection

/-- **An exchange ends in one of four ways**, by the body of the response, whatever decodes it.
What is unusable leaves the batch among the dropped documents, unless the decoder breaks off at it.
Within its limits it does so at a text that is not UTF-8 and nowhere else, and so at no body in
UTF-8. -/
theorem exchanges_end (c : Connection) {fits : Bytes → Prop}
    (hdecode : Json.Conforms c.decode fits) (body index : Text) (payload : Json) (o : Outbox)
    (hpending : o.pending ≠ []) :
    c.response.EndsIn fits (c.bulk body).1.outcome ∧
      c.response.EndsIn fits (c.search index payload).1.outcome ∧
      c.response.Books fits o (o.flush c).1 ∧
      ∀ t, c.response = .body (Utf8.encode t) → fits (Utf8.encode t) → ∀ message,
        (c.bulk body).1.outcome ≠ .undecodable message ∧
        (c.search index payload).1.outcome ≠ .undecodable message := by
  have hends (p : Post) : c.response.EndsIn fits (c.post p).1.outcome := by
    rw [outcome_post]
    exact Response.endsIn_outcome hdecode _ _
  have htext (t : Text) (hresponse : c.response = .body (Utf8.encode t))
      (hfits : fits (Utf8.encode t)) (p : Post) (message : Text) :
      (c.post p).1.outcome ≠ .undecodable message := by
    intro houtcome
    have hwithin : c.response.Fits fits := by rwa [hresponse, Response.fits_body_iff]
    have hbreaks := ((hends p).undecodable hwithin).1 ⟨message, houtcome⟩
    rw [hresponse, Response.breaksOff_body_iff] at hbreaks
    exact hbreaks.not_isText ⟨t, rfl⟩
  refine ⟨hends _, hends _, ?_, fun t hresponse hfits message =>
    ⟨htext t hresponse hfits _ message, htext t hresponse hfits _ message⟩⟩
  rw [Outbox.flush, if_neg hpending]
  exact (hends ⟨c.client.bulkUrl, Bulk.body o.index o.pending, "application/x-ndjson"⟩).books o

/-- The body of the response is a list, with one document in the batch. -/
theorem exchanges_end_of_list :
    let client : Client := ⟨"http://localhost:9200", none, .zero false, .zero false⟩
    let c : Connection := .new client Json.decoder [⟨.body [91, 49, 93], 0⟩]
    let o : Outbox := ⟨"logs", 2, [⟨⟨0, by decide⟩, none, ['x'], ['x'], ['f']⟩], 0, 0, 0, 0⟩
    Json.Conforms c.decode (fun _ => True) ∧ o.pending ≠ [] ∧
      (c.bulk "x").1.outcome = .unavailable
        "Expected a JSON object from http://localhost:9200/_bulk?refresh=false, got list" ∧
      c.response.IsUnusable ∧ ¬ c.response.BreaksOff ∧
      (o.flush c).1.outbox = ⟨"logs", 2, [], 0, 1, 0, 1⟩ := by
  intro client c o
  have hpending : o.pending ≠ [] := List.cons_ne_nil _ _
  have hfits : c.response.Fits fun _ => True := fun _ _ => trivial
  have houtcome : (c.bulk "x").1.outcome = .unavailable
      "Expected a JSON object from http://localhost:9200/_bulk?refresh=false, got list" := rfl
  obtain ⟨hbulk, -, hbooks, -⟩ := exchanges_end c Json.conforms_decoder "x" [] .null o hpending
  obtain ⟨hunusable, hbreaks⟩ := (hbulk.unavailable hfits).1 ⟨_, houtcome⟩
  exact ⟨Json.conforms_decoder, hpending, houtcome, hunusable, hbreaks,
    (hbooks.dropped hfits hunusable hbreaks).outbox⟩

/-- The body is an object up to a text of one byte, which is not UTF-8.  It is unusable, but the
client does not say so: the batch is taken out of the outbox and is nowhere counted. -/
theorem dropped_uncounted :
    let client : Client := ⟨"http://localhost:9200", none, .zero false, .zero false⟩
    let body : Bytes := [123, 34, 97, 34, 58, 34, 255, 34, 125]
    let c : Connection := .new client Json.decoder [⟨.body body, 0⟩]
    let o : Outbox := ⟨"logs", 2, [⟨⟨0, by decide⟩, none, ['x'], ['x'], ['f']⟩], 0, 0, 0, 0⟩
    c.response.IsUnusable ∧ (¬ ∃ message, (c.bulk "x").1.outcome = .unavailable message) ∧
      (¬ ∃ message, (c.search "logs" .null).1.outcome = .unavailable message) ∧
      (o.flush c).1.outbox = ⟨"logs", 2, [], 0, 0, 0, 0⟩ := by
  intro client body c o
  have hbreaks : c.response.BreaksOff :=
    Response.breaksOff_body_iff.2 (Json.read_eq_encoding_iff.1 ⟨_, rfl⟩)
  refine ⟨hbreaks.isUnusable, ?_, ?_, rfl⟩
  all_goals
    rintro ⟨message, h⟩
    cases h

end Connection

end LogSearch
