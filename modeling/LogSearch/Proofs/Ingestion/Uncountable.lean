import LogSearch.Proofs.Ingestion.Intake

/-!
# Replies that cannot be counted

A batch with a reply is shipped, whatever the reply says.  If the reply reports errors, the rejected
documents are counted after that, and here a reply can stop the reading: its items may be something
that cannot be gone through, or the result of an item may be something that has no members
(`Bulk.IsUncountable`).  The batch is on the books then, and nothing waits, but the sending ends
with a fault (`Outbox.flush_reply`).

For the reading of a file it comes down to the replies that are heard on the way.  As long as they
can be counted, the reading goes on to the end of the file, and the offset becomes the size of the
file; at the first one that cannot, it ends, and the offset stays where it was
(`Collector.Hears`).  Requests that fail do not stop it.
-/

namespace LogSearch

/-- Items can be gone through: those of a list, the keys of an object, the characters of a text. -/
def Json.IsIterable : Json → Prop
  | .list _ | .object _ | .text _ => True
  | _ => False

namespace Bulk

/-- The result of an item says something, and it is no object. -/
structure HasOddResult (item : Json) : Prop where
  object : item.isObject
  filled : (item.member "index").isFilled
  odd : (item.member "index").isObject = false

/-- The reply reports errors, and the rejected documents cannot be counted. -/
inductive IsUncountable : Json → Prop where
  | items {members : List (Text × Json)} {items : Json}
      (herrors : ((Json.object members).member "errors").isFilled)
      (hitems : Json.find? members "items" = some items) (hodd : ¬ items.IsIterable) :
      IsUncountable (.object members)
  | result {members : List (Text × Json)} {items : List Json} {item : Json}
      (herrors : ((Json.object members).member "errors").isFilled)
      (hitems : Json.find? members "items" = some (.list items)) (hitem : item ∈ items)
      (hodd : HasOddResult item) : IsUncountable (.object members)

lemma exists_isRejected_eq_error_iff {item : Json} :
    (∃ fault, isRejected item = .error fault) ↔ HasOddResult item := by
  rw [isRejected]
  constructor
  · rintro ⟨fault, h⟩
    split at h
    next hobject =>
      simp only at h
      split at h
      next => cases h
      next hodd =>
        split at h
        next hfilled => exact ⟨hobject, hfilled, by simpa using hodd⟩
        next => cases h
    next => cases h
  · rintro ⟨hobject, hfilled, hodd⟩
    rw [if_pos hobject]
    simp only [hodd, hfilled, Bool.false_eq_true, if_false, if_true]
    exact ⟨_, rfl⟩

/-- Items are counted to the end if none of them has an odd result. -/
lemma exists_countItems_eq_ok_iff {items : List Json} :
    (∃ n, countItems items = .ok n) ↔ ∀ item ∈ items, ¬ HasOddResult item := by
  induction items with
  | nil => exact iff_of_true ⟨0, rfl⟩ (List.forall_mem_nil _)
  | cons item rest ih =>
    rw [List.forall_mem_cons, ← ih, ← exists_isRejected_eq_error_iff, countItems]
    cases isRejected item with
    | error fault => exact iff_of_false nofun fun h => h.1 ⟨fault, rfl⟩
    | ok rejected =>
      cases countItems rest with
      | error fault => exact iff_of_false nofun nofun
      | ok more => exact iff_of_true ⟨_, rfl⟩ ⟨nofun, more, rfl⟩

/-- The replies that cannot be counted are those that are called so. -/
lemma exists_countRejected_eq_ok_iff {reply : Json} :
    (∃ rejected, countRejected reply = .ok rejected) ↔ ¬ IsUncountable reply := by
  cases reply with
  | object members =>
    rw [countRejected]
    by_cases herrors : ((Json.object members).member "errors").isFilled
    · rw [if_pos herrors]
      cases hitems : Json.find? members "items" with
      | none =>
        refine iff_of_true ⟨some 0, rfl⟩ ?_
        rintro (⟨-, hsome, -⟩ | ⟨-, hsome, -⟩) <;> rw [hitems] at hsome <;> cases hsome
      | some items =>
        have hiterable : items.IsIterable → (∀ l, items ≠ .list l) →
            ¬ IsUncountable (.object members) := by
          rintro hiterable hlist (⟨-, hsome, hodd⟩ | ⟨-, hsome, -⟩)
          · rw [hitems] at hsome
            exact hodd (Option.some.inj hsome ▸ hiterable)
          · rw [hitems] at hsome
            exact hlist _ (Option.some.inj hsome)
        rw [Option.getD_some]
        cases items with
        | list items =>
          have hcount : (∃ rejected, some <$> countItems items = .ok rejected) ↔
              ∃ n, countItems items = .ok n := by
            cases countItems items <;> simp
          rw [hcount, exists_countItems_eq_ok_iff]
          constructor
          · rintro hnone (⟨-, hsome, hodd⟩ | ⟨-, hsome, hitem, hodd⟩)
            · rw [hitems] at hsome
              exact hodd (Option.some.inj hsome ▸ trivial)
            · rw [hitems] at hsome
              cases hsome
              exact hnone _ hitem hodd
          · exact fun h item hitem hodd => h (.result herrors hitems hitem hodd)
        | object => exact iff_of_true ⟨some 0, rfl⟩ (hiterable trivial nofun)
        | text => exact iff_of_true ⟨some 0, rfl⟩ (hiterable trivial nofun)
        | null => exact iff_of_false nofun (not_not_intro (.items herrors hitems not_false))
        | bool => exact iff_of_false nofun (not_not_intro (.items herrors hitems not_false))
        | int => exact iff_of_false nofun (not_not_intro (.items herrors hitems not_false))
        | float => exact iff_of_false nofun (not_not_intro (.items herrors hitems not_false))
    · rw [if_neg herrors]
      refine iff_of_true ⟨none, rfl⟩ ?_
      rintro (⟨h, -⟩ | ⟨h, -⟩) <;> exact herrors h
  | _ => exact iff_of_true ⟨none, rfl⟩ nofun

end Bulk

namespace Ingestion

/-! ## One batch -/

/-- The outcome is a reply that cannot be counted. -/
def Outcome.IsUncountable (outcome : Outcome) : Prop :=
  ∃ body, outcome = .reply body ∧ Bulk.IsUncountable body

lemma Outcome.not_isUncountable_unavailable (message : Text) :
    ¬ (Outcome.unavailable message).IsUncountable := by
  rintro ⟨body, hbody, -⟩
  cases hbody

lemma Outcome.isCounted_iff {outcome : Outcome} (h : outcome.IsBooked) :
    outcome.IsCounted ↔ ¬ outcome.IsUncountable := by
  cases outcome with
  | reply body =>
    have hbody : Outcome.IsUncountable (.reply body) ↔ Bulk.IsUncountable body := by
      constructor
      · rintro ⟨_, ⟨⟩, hbody⟩
        exact hbody
      · exact fun hbody => ⟨body, rfl, hbody⟩
    rw [hbody]
    exact Bulk.exists_countRejected_eq_ok_iff
  | unavailable message => exact iff_of_true trivial (not_isUncountable_unavailable message)
  | undecodable fault => exact h.elim

lemma Outbox.exists_settle_eq_error (o : Outbox) (size : Nat) {outcome : Outcome}
    (h : outcome.IsUncountable) :
    ∃ fault, (o.settle size outcome).result = .error (.reply fault) := by
  obtain ⟨body, rfl, hbody⟩ := h
  rw [settle]
  cases hcount : Bulk.countRejected body with
  | error fault => exact ⟨fault, rfl⟩
  | ok rejected => exact absurd hbody (Bulk.exists_countRejected_eq_ok_iff.1 ⟨rejected, hcount⟩)

/-- A batch with a reply is on the books as shipped, once, and does not wait any more.  Its size is
the result just if the reply can be counted. -/
lemma Outbox.flush_reply {σ : Type} [Sink σ] {o : Outbox} {sink : σ} {body : Json}
    (hpending : o.pending ≠ [])
    (hbody : (Sink.bulk sink o.index o.pending).1.outcome = .reply body) :
    let s := (o.flush sink).1
    s.outbox = { o with
      pending := [], shipped := o.shipped + o.pending.length, batchesSent := o.batchesSent + 1 } ∧
      (s.result = .ok o.pending.length ↔ ¬ Bulk.IsUncountable body) ∧
      (Bulk.IsUncountable body ↔ ∃ fault, s.result = .error (.reply fault)) := by
  intro s
  have hs : s = o.empty.settle o.pending.length (.reply body) := by
    simp only [s, flush_of_pending_ne_nil hpending, hbody]
  have huncountable : Bulk.IsUncountable body ↔
      ¬ ∃ rejected, Bulk.countRejected body = .ok rejected := by
    rw [Bulk.exists_countRejected_eq_ok_iff, not_not]
  rw [huncountable, hs, settle]
  rcases Bulk.countRejected body with fault | _ | rejected <;> simp [empty]

/-- A scripted sink answers with what comes next in its script, and reports no errors after the end
of it. -/
lemma ScriptedSink.exists_heard_bulk (s : ScriptedSink) (index : Text) (batch : List Document) :
    ∃ heard : List Delivery, s.script = heard ++ (Sink.bulk s index batch).2.script ∧
      (heard = [] ∧ (Sink.bulk s index batch).1 = lastDelivery ∨
        heard = [(Sink.bulk s index batch).1]) := by
  obtain ⟨script, batches, bodies⟩ := s
  cases script with
  | nil => exact ⟨[], rfl, .inl ⟨rfl, rfl⟩⟩
  | cons d rest => exact ⟨[d], rfl, .inr rfl⟩

/-! ## One reading -/

/-- Between two moments the outcomes were heard, and no offset was kept. -/
structure Heard (heard : List Delivery) (c c' : Collector ScriptedSink) : Prop where
  script : c.sink.script = heard ++ c'.sink.script
  offsets : c'.offsets = c.offsets

lemma Heard.trans {first second : List Delivery} {c c₁ c₂ : Collector ScriptedSink}
    (h : Heard first c c₁) (h' : Heard second c₁ c₂) : Heard (first ++ second) c c₂ where
  script := by rw [h.script, h'.script, List.append_assoc]
  offsets := h'.offsets.trans h.offsets

namespace Collector

/-- A reading that ends with `done` when no outcome stops it has come to a result: it was not
stopped, and nothing waits, or it was stopped by an uncountable reply, the first one. -/
inductive Hears (c : Collector ScriptedSink)
    (done : Collector ScriptedSink → Collector ScriptedSink × FileResult) :
    Collector (Prompt ScriptedSink) × FileResult → Prop where
  | through {heard : List Delivery} {c' : Collector ScriptedSink} (h : Heard heard c c')
      (hheard : ∀ d ∈ heard, ¬ d.outcome.IsUncountable) (hpending : c'.outbox.pending = []) :
      Hears c done (Prod.map prompt id (done c'))
  | stopped {before : List Delivery} {d : Delivery} {c' : Collector ScriptedSink}
      {fault : Bulk.ReplyFault} (h : Heard (before ++ [d]) c c')
      (hbefore : ∀ d ∈ before, ¬ d.outcome.IsUncountable) (hd : d.outcome.IsUncountable) :
      Hears c done (c'.prompt, .failed (.send (.reply fault)))

variable {c c' : Collector ScriptedSink} {heard : List Delivery}
  {done : Collector ScriptedSink → Collector ScriptedSink × FileResult}
  {r : Collector (Prompt ScriptedSink) × FileResult}

lemma Hears.after (h : Hears c' done r) (hheard : Heard heard c c')
    (hcounted : ∀ d ∈ heard, ¬ d.outcome.IsUncountable) : Hears c done r := by
  cases h with
  | through h hall hpending =>
    exact .through (hheard.trans h) (List.forall_mem_append.2 ⟨hcounted, hall⟩) hpending
  | stopped h hbefore hd =>
    rename_i before d c₁ fault
    have hsplit := hheard.trans h
    rw [← List.append_assoc] at hsplit
    exact .stopped hsplit (List.forall_mem_append.2 ⟨hcounted, hbefore⟩) hd

/-- Sending hears one outcome, and goes on unless this is an uncountable reply. -/
lemma hears_send (hbooked : ∀ d ∈ c.sink.script, d.outcome.IsBooked) (f : OpenFile) (atEnd : Bool)
    {next : Collector (Prompt ScriptedSink) → Collector (Prompt ScriptedSink) × FileResult}
    (hnext : ∀ c₁ : Collector ScriptedSink, (∀ d ∈ c₁.sink.script, d.outcome.IsBooked) →
      c₁.outbox.pending = [] → Hears c₁ done (next c₁.prompt)) :
    Hears c done (c.prompt.send f atEnd next) := by
  let delivery := (Sink.bulk c.sink c.outbox.index c.outbox.pending).1
  let c₁ := (c.dispatch.2.2.settle c.dispatch.1.length delivery.outcome).1
  have hsettle : c.dispatch.2.2.settle c.dispatch.1.length c.dispatch.2.1.outcome =
      (c₁, (c.dispatch.2.2.outbox.settle c.dispatch.1.length delivery.outcome).result) := rfl
  have hpending : c₁.outbox.pending = [] := Outbox.settle_pending
  obtain ⟨heard, hscript, hone⟩ :=
    c.sink.exists_heard_bulk c.outbox.index c.outbox.pending
  have hheard : Heard heard c c₁ := ⟨hscript, rfl⟩
  have hbooked₁ : ∀ d ∈ c₁.sink.script, d.outcome.IsBooked :=
    fun d hd => hbooked d (hscript ▸ List.mem_append_right _ hd)
  have hdelivery : delivery.outcome.IsBooked := ScriptedSink.outcome_bulk trivial hbooked
  rw [prompt_send, hsettle]
  by_cases huncountable : delivery.outcome.IsUncountable
  · obtain ⟨fault, hfault⟩ :=
      c.dispatch.2.2.outbox.exists_settle_eq_error c.dispatch.1.length huncountable
    rw [hfault]
    rcases hone with ⟨-, hlast⟩ | rfl
    · -- after the end of the script no errors are reported
      have hcounted : delivery.outcome.IsCounted := by
        rw [show delivery = ScriptedSink.lastDelivery from hlast]
        exact ⟨none, rfl⟩
      exact absurd huncountable ((Outcome.isCounted_iff hdelivery).1 hcounted)
    · have hfirst : Heard ([] ++ [delivery]) c c₁ := hheard
      exact .stopped hfirst (List.forall_mem_nil _) huncountable
  · obtain ⟨n, hn⟩ := c.dispatch.2.2.outbox.exists_result_settle c.dispatch.1.length
      ((Outcome.isCounted_iff hdelivery).2 huncountable)
    rw [hn]
    refine (hnext c₁ hbooked₁ hpending).after hheard fun d hd => ?_
    rcases hone with ⟨rfl, -⟩ | rfl
    · cases hd
    · rwa [List.mem_singleton.1 hd]

lemma exists_heard_accept {site : Site} {source : Text} {line : Bytes} {d? : Option Document}
    (hline : Line.document? site.zone site.now source (lineText line) = .ok d?) :
    ∃ c₁, c.accept site source line = (c₁, .ok d?) ∧ Heard [] c c₁ := by
  rw [accept, hline]
  cases d? with
  | none => exact ⟨_, rfl, rfl, rfl⟩
  | some d => exact ⟨_, rfl, rfl, rfl⟩

/-- Lines that can be read come to the end of the file, unless a reply stops them. -/
lemma hears_readLines {site : Site} {lines : List Bytes} {f : OpenFile}
    (hbooked : ∀ d ∈ c.sink.script, d.outcome.IsBooked) (hfails : f.failsAfter = none)
    (hreads : site.Reads f.path lines) :
    Hears c (·.complete (lines.foldl OpenFile.takeLine f)) (c.prompt.readLines site f lines) := by
  induction lines generalizing c f with
  | nil =>
    rw [readLines_nil, hfails, Option.isSome_none, if_neg Bool.false_ne_true, finishFile_eq]
    have hdone : ∀ c₁ : Collector ScriptedSink, c₁.outbox.pending = [] →
        Hears c₁ (·.complete f) (c₁.prompt.complete f) := by
      intro c₁ hempty
      have hnothing : Heard [] c₁ c₁ := ⟨rfl, rfl⟩
      exact .through hnothing (List.forall_mem_nil _) hempty
    split
    next hempty => exact hdone c hempty
    next => exact hears_send hbooked f true fun c₁ _ => hdone c₁
  | cons line rest ih =>
    obtain ⟨⟨d?, hline⟩, hrest⟩ := List.forall_mem_cons.1 hreads
    have hfails' : (f.takeLine line).failsAfter = none := by
      rw [OpenFile.takeLine, hfails, Option.map_none]
    have hlater : ∀ c₁ : Collector ScriptedSink, (∀ d ∈ c₁.sink.script, d.outcome.IsBooked) →
        Hears c₁ (·.complete ((line :: rest).foldl OpenFile.takeLine f))
          (c₁.prompt.readLines site (f.takeLine line) rest) :=
      fun c₁ hbooked₁ => ih hbooked₁ hfails' hrest
    obtain ⟨c₁, haccept, hheard⟩ := exists_heard_accept (c := c) hline
    have hbooked₁ : ∀ d ∈ c₁.sink.script, d.outcome.IsBooked := by
      rwa [← List.nil_append c₁.sink.script, ← hheard.script]
    rw [readLines_cons, hfails, if_neg (by simp), prompt_accept, haccept]
    refine Hears.after ?_ hheard (List.forall_mem_nil _)
    cases d? with
    | none => exact hlater c₁ hbooked₁
    | some d =>
      simp only
      split
      next =>
        exact hears_send hbooked₁ (f.takeLine line) false fun c₂ hbooked₂ _ => hlater c₂ hbooked₂
      next => exact hlater c₁ hbooked₁

section Tail

variable {site : Site} {path : Text} {content : Bytes}

/-- A file that is read from a place on comes to its end, with its size as the offset, unless a
reply stops the reading. -/
lemma hears_readOn {number start : Nat} (hbooked : ∀ d ∈ c.sink.script, d.outcome.IsBooked)
    (hcontent : c.files.content number = content) (hstart : start ≤ content.length)
    (hreads : site.Reads path (splitLines (content.drop start))) :
    Hears c (fun c₁ => ({ c₁.setOffset path content.length with
        linesRead := c₁.linesRead + (splitLines (content.drop start)).length },
        .finished (splitLines (content.drop start)).length))
      (c.prompt.readOn site (.start path number start none)) := by
  have hlines := hears_readLines (f := .start path number start none) hbooked rfl hreads
  have hdone : (fun c₁ : Collector ScriptedSink => c₁.complete
      ((splitLines (content.drop start)).foldl OpenFile.takeLine (.start path number start none))) =
      fun c₁ => ({ c₁.setOffset path content.length with
        linesRead := c₁.linesRead + (splitLines (content.drop start)).length },
        .finished (splitLines (content.drop start)).length) :=
    funext fun c₁ => complete_start hstart
  have hremaining : (OpenFile.start path number start none).remaining content =
      content.drop start := rfl
  have hnumber : (OpenFile.start path number start none).number = number := rfl
  rw [hdone] at hlines
  rwa [readOn, prompt_files, hnumber, hcontent, hremaining]

lemma hears_tail (hbooked : ∀ d ∈ c.sink.script, d.outcome.IsBooked)
    (hshows : c.files.Shows path content) (hoffset : 0 ≤ c.offset path)
    (hreads : site.Reads path (splitLines (c.unread path content))) :
    let lines := splitLines (c.unread path content)
    Hears c (fun c₁ => ({ c₁.setOffset path content.length with
        linesRead := c₁.linesRead + lines.length }, .finished lines.length))
      (c.prompt.tail site path) := by
  intro lines
  obtain ⟨number, hfind, rfl⟩ := hshows.found
  obtain ⟨hle, journal, hread⟩ :=
    exists_readFile_eq site c.prompt (Reading.start?_of_nonneg _ hoffset)
  let c₀ : Collector ScriptedSink := { c with
    rotations := c.rotations +
      if ((c.files.content number).length : Int) < c.offset path then 1 else 0
    journal := journal }
  have hnothing : Heard [] c c₀ := ⟨rfl, rfl⟩
  have htail : c.prompt.tail site path = c.prompt.readFile site path number := by
    rw [tail, if_neg hshows.nul, prompt_files, hfind]
  rw [htail, hread, prompt_files, hshows.sound]
  exact (hears_readOn (c := c₀) hbooked rfl hle hreads).after hnothing (List.forall_mem_nil _)

end Tail

end Collector

/-! ## What a reply can do -/

/-- **Only a reply that cannot be counted stops the ingestion.**
* A batch that gets a reply does not wait any more and is on the books as shipped, once, whatever
  the reply is.  The sending comes to the size of the batch, unless the reply cannot be counted;
  then it ends with a fault.
* A file that can be read, and on whose lines no timestamp is out of range, is read to its end as
  long as no such reply is heard, and its offset is its size then.  The first one that is heard ends
  the reading, and all offsets stay as they were.  Requests may be refused, and the answers may be
  late. -/
theorem replies_until_uncountable (site : Site) :
    (∀ (σ : Type) [Sink σ] (o : Outbox) (sink : σ) (body : Json), o.pending ≠ [] →
      (Sink.bulk sink o.index o.pending).1.outcome = .reply body →
      let s := (o.flush sink).1
      s.outbox = { o with
        pending := [], shipped := o.shipped + o.pending.length, batchesSent := o.batchesSent + 1 } ∧
      (s.result = .ok o.pending.length ↔ ¬ Bulk.IsUncountable body) ∧
      (Bulk.IsUncountable body ↔ ∃ fault, s.result = .error (.reply fault))) ∧
    ∀ (c : Collector ScriptedSink) (path : Text) (content : Bytes),
      (∀ d ∈ c.sink.script, d.outcome.IsBooked) → c.files.Shows path content →
      0 ≤ c.offset path → site.Reads path (splitLines (c.unread path content)) →
      ∃ c' result heard, Collector.awaited site (c.tail site path) = (c', result) ∧
        c.sink.script = heard ++ c'.sink.script ∧
        ((∀ d ∈ heard, ¬ d.outcome.IsUncountable) ∧ c'.outbox.pending = [] ∧
            result = .finished (splitLines (c.unread path content)).length ∧
            (∀ other, c'.offsets.lookup other =
              if other = path then some (content.length : Int) else c.offsets.lookup other) ∨
          ∃ before d fault, heard = before ++ [d] ∧ (∀ b ∈ before, ¬ b.outcome.IsUncountable) ∧
            d.outcome.IsUncountable ∧ result = .failed (.send (.reply fault)) ∧
            c'.offsets = c.offsets) := by
  refine ⟨fun σ _ o sink body => Outbox.flush_reply, ?_⟩
  intro c path content hbooked hshows hoffset hreads
  have hprompt := Collector.prompt_awaited_tail site c path
  have hhears := Collector.hears_tail hbooked hshows hoffset hreads
  rw [← hprompt] at hhears
  generalize hresult : Collector.awaited site (c.tail site path) = r at hhears
  generalize hr : Prod.map Collector.prompt id r = r' at hhears
  cases hhears with
  | @through heard c₁ h hheard hpending =>
    obtain rfl := Collector.eq_of_prompt_eq hr
    refine ⟨_, _, heard, rfl, h.script, .inl ⟨hheard, hpending, rfl, fun other => ?_⟩⟩
    refine (lookup_assign path other (content.length : Int) c₁.offsets).trans ?_
    rw [h.offsets]
  | @stopped before d c₁ fault h hbefore hd =>
    have hstopped : r = (c₁, .failed (.send (.reply fault))) := Collector.eq_of_prompt_eq hr
    exact ⟨c₁, _, _, hstopped, h.script,
      .inr ⟨before, d, fault, rfl, hbefore, hd, rfl, h.offsets⟩⟩

/-- The replies to three batches have odd shapes, in which the rejected documents can be counted all
the same: a list, one whose items are an object, and one with an item that is no object and another
whose result is an empty text.  All three are heard, and the file is read to its end. -/
theorem replies_until_uncountable_of_odd_replies :
    let site : Site := ⟨⟨0⟩, "/", "/", ⟨0, by decide⟩⟩
    let content : Bytes := [120, 10, 121, 10, 122, 10]
    let replies : List Json := [.list [.null],
      .object [("errors", .bool true), ("items", .object [("index", .int 5)])],
      .object [("errors", .int 1), ("items", .list [.int 5, .object [("index", .text [])]])]]
    let c : Collector ScriptedSink := ⟨⟨[([['a']], .file 0)], [(0, content)], []⟩,
      ⟨"logs", 1, [], 0, 0, 0, 0⟩, ⟨replies.map fun r => ⟨.reply r, 1⟩, [], []⟩, [], ⟨0, 0⟩, 0, 0,
      []⟩
    (∀ reply ∈ replies, ¬ Bulk.IsUncountable reply) ∧
      ∃ c', Collector.awaited site (c.tail site "/a") = (c', .finished 3) ∧ c'.sink.script = [] ∧
        c'.outbox.shipped = 3 ∧ c'.offsets.lookup ("/a" : Text) = some 6 := by
  intro site content replies c
  have hfind : c.files.find "/a" = .file 0 :=
    Files.find_eq_file ['a'] rfl (by decide) (by decide) (by decide)
  have hshows : c.files.Shows "/a" content := ⟨by decide, ⟨0, hfind, rfl⟩, rfl⟩
  have hlines : splitLines (c.unread "/a" content) = [[120, 10], [121, 10], [122, 10]] := rfl
  have hreads : site.Reads "/a" (splitLines (c.unread "/a" content)) := by
    rw [hlines, Site.Reads, List.forall_mem_cons, List.forall_mem_cons, List.forall_mem_singleton]
    exact ⟨⟨some ⟨⟨0, by decide⟩, none, "x", "x", "/a"⟩, rfl⟩,
      ⟨some ⟨⟨0, by decide⟩, none, "y", "y", "/a"⟩, rfl⟩,
      ⟨some ⟨⟨0, by decide⟩, none, "z", "z", "/a"⟩, rfl⟩⟩
  have hcountable : ∀ reply ∈ replies, ¬ Bulk.IsUncountable reply := by
    rw [List.forall_mem_cons, List.forall_mem_cons, List.forall_mem_singleton]
    refine ⟨?_, ?_, ?_⟩ <;> rw [← Bulk.exists_countRejected_eq_ok_iff]
    · exact ⟨none, rfl⟩
    · exact ⟨some 0, rfl⟩
    · exact ⟨some 0, rfl⟩
  have hscript : ∀ d ∈ c.sink.script, d.outcome.IsBooked ∧ ¬ d.outcome.IsUncountable := by
    intro d hd
    obtain ⟨reply, hreply, rfl⟩ := List.mem_map.1 hd
    refine ⟨trivial, ?_⟩
    rintro ⟨body, ⟨⟩, hbody⟩
    exact hcountable reply hreply hbody
  obtain ⟨c', result, heard, hawaited, hheard,
      ⟨-, -, rfl, hoffsets⟩ | ⟨before, d, fault, rfl, -, hd, -⟩⟩ :=
    (replies_until_uncountable site).2 c "/a" content (fun d hd => (hscript d hd).1) hshows
      (by decide) hreads
  · -- with every answer at once, the reading comes to the same
    have hprompt := Collector.prompt_awaited_tail site c "/a"
    rw [hawaited, Collector.tail, if_neg (by decide), Collector.prompt_files, hfind] at hprompt
    have hend : c'.prompt = (c.prompt.readFile site "/a" 0).1 := congrArg Prod.fst hprompt
    refine ⟨hcountable, c', hawaited, ?_, ?_, hoffsets "/a"⟩
    · exact congrArg (fun e => e.sink.sink.script) hend
    · exact congrArg (fun e => e.outbox.shipped) hend
  · -- nothing in the script is uncountable
    exact absurd hd (hscript d (by rw [hheard]; simp)).2

/-- The reply to the only batch reports errors, and its items are a number.  The document is on the
books as shipped, and the offset of its file is not kept. -/
theorem offset_lost_to_number :
    let reply : Json := .object [("errors".toList, .bool true), ("items".toList, .int 5)]
    let sink : ScriptedSink := ⟨[⟨.reply reply, 0⟩], [], []⟩
    let site : Site := ⟨⟨0⟩, "/", "/", ⟨0, by decide⟩⟩
    let files : Files := ⟨[([['a']], .file 0)], [(0, [120, 10])], []⟩
    let c : Collector ScriptedSink := .new files ⟨"logs", 500, [], 0, 0, 0, 0⟩ sink
    let d : Document := ⟨⟨0, by decide⟩, none, "x", "x", "/a"⟩
    let s := (Outbox.flush ⟨"logs", 500, [d], 0, 0, 0, 0⟩ sink).1
    let after := c.tail site "/a"
    s.result = .error (.reply (.notIterable "int")) ∧ s.outbox.pending = [] ∧
      s.outbox.shipped = 1 ∧ after.2 = .failed (.send (.reply (.notIterable "int"))) ∧
      after.1.outbox.shipped = 1 ∧ after.1.offsets = [] := by
  intro reply sink site files c d s after
  have hfind : c.files.find "/a" = .file 0 :=
    Files.find_eq_file ['a'] rfl (by decide) (by decide) (by decide)
  have hafter : after = c.readFile site "/a" 0 := by
    simp only [after]
    rw [Collector.tail, if_neg (by decide), hfind]
  rw [hafter]
  exact ⟨rfl, rfl, rfl, rfl, rfl, rfl⟩

end Ingestion

end LogSearch
