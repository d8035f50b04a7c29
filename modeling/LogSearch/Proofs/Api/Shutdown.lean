import LogSearch.Proofs.Api.Asking
import LogSearch.Proofs.Ingestion.Apart

/-!
# The end of the service

When the service has been shut down, nothing is running and nothing is open, and so it stays until
somebody asks for something.  `Api.Started` is what makes that so and holds from the start on,
whatever happens: the service has what it was started with, its background was started, and of the
sessions that were opened all were closed but the one that is open.

A shutdown stops ingestion and then closes the session.  A stop leaves no background, and without a
background nobody can open a session again: time goes by, and that is all (`Api.Ended.apply`).
-/

namespace LogSearch

open Ingestion

/-! ## The sessions of a connection -/

namespace Connection

variable {c c' : Connection}

/-- Of the sessions that were opened, all were closed but the one that is open. -/
def Balanced (c : Connection) : Prop := c.opened = c.closed + c.isOpen.toNat

lemma balanced_withSession (h : c.Balanced) : c.withSession.Balanced := by
  unfold withSession
  split
  · exact h
  next hclosed =>
    rw [Balanced, eq_false_of_ne_true hclosed] at h
    exact congrArg (· + 1) h

lemma balanced_post (h : c.Balanced) (p : Post) : (c.post p).2.Balanced :=
  balanced_withSession h

lemma balanced_close (h : c.Balanced) : c.close.1.Balanced ∧ c.close.1.isOpen = false := by
  unfold close
  split
  next hopen =>
    rw [Balanced, hopen] at h
    exact ⟨h, rfl⟩
  next hclosed => exact ⟨h, eq_false_of_ne_true hclosed⟩

lemma close_of_not_isOpen (h : c.isOpen = false) : c.close = (c, []) := by
  rw [close, h]
  rfl

lemma balanced_of_handed (h : Handed c c') (hc : c.Balanced) : c'.Balanced :=
  h.keeps hc fun _ _ _ hbefore => balanced_post hbefore _

end Connection

namespace Api

/-! ## What may happen -/

/-- Something that may happen to the service. -/
inductive Step where
  | advance (seconds : Rat)
  /-- A pass is made directly, beside those of the background. -/
  | pass
  | stats
  | search (body : Json)
  | searchText (body : Text)
  /-- The log files are written, moved or removed. -/
  | setFiles (files : Files)
  | shutdown

/-- Somebody asks for something for which the backend may be needed. -/
def Step.isRequest : Step → Bool
  | .pass | .search _ | .searchText _ => true
  | .advance _ | .stats | .setFiles _ | .shutdown => false

/-- The service after something has happened. -/
def apply (a : Api) : Step → Api
  | .advance seconds => a.advance seconds
  | .pass => { a with ingestion := a.ingestion.tick.1 }
  | .stats => a
  | .search body => (a.search body).2
  | .searchText body => (a.searchText body).2
  | .setFiles files => { a with ingestion.collector.files := files }
  | .shutdown => a.shutdown

/-- The service after all that has happened. -/
def run (a : Api) (steps : List Step) : Api := steps.foldl apply a

/-! ## From the start on -/

/-- The service was started, and has all that it was started with. -/
structure Started (a : Api) : Prop where
  hasIngestion : a.hasIngestion
  hasClient : a.hasClient
  started : a.ingestion.stopRequested.isSome
  balanced : a.connection.Balanced

variable {a : Api}

lemma Started.of_continues (h : a.Started) {s : Service Connection}
    (hs : Service.Continues a.ingestion s) : Started { a with ingestion := s } :=
  ⟨h.hasIngestion, h.hasClient, hs.started.trans h.started,
    Connection.balanced_of_handed hs.handed h.balanced⟩

lemma Started.ask (h : a.Started) (index : Text) (payload : Json) :
    (ask index payload a).2.Started := by
  have hposted : (a.withConnection (a.connection.search index payload).2).Started :=
    ⟨h.hasIngestion, h.hasClient, h.started, Connection.balanced_post h.balanced _⟩
  unfold Api.ask
  dsimp only
  split
  · exact hposted.of_continues (Service.continues_pause _ _)
  · exact hposted

lemma Started.foldl_ask (h : a.Started) (questions : List (Text × Json)) :
    (questions.foldl (fun a q => (Api.ask q.1 q.2 a).2) a).Started := by
  induction questions generalizing a with
  | nil => exact h
  | cons question questions ih => exact ih (h.ask question.1 question.2)

lemma Started.search (h : a.Started) (body : Json) : (a.search body).2.Started := by
  have hasked := h.foldl_ask (questions a.ingestion.site.zone a.executor body)
  obtain ⟨entries, hsearch⟩ := a.exists_search_eq body
  rw [hsearch]
  exact ⟨hasked.hasIngestion, hasked.hasClient, hasked.started, hasked.balanced⟩

lemma Started.searchText (h : a.Started) (body : Text) : (a.searchText body).2.Started := by
  rw [Api.searchText]
  split
  · exact h
  · exact h
  · exact h.search _

lemma shutdown_eq (h : a.Started) : ∃ entries, a.shutdown =
    ({ a with ingestion := a.ingestion.stop (some shutdownTimeout) }.withConnection
      (a.ingestion.stop (some shutdownTimeout)).collector.sink.close.1).reportAll entries := by
  rw [shutdown, if_pos h.hasIngestion, if_pos h.hasClient]
  exact ⟨_, rfl⟩

/-- Nothing is running and nothing is open. -/
structure Ended (a : Api) : Prop extends a.Started where
  task : a.ingestion.task = none
  isOpen : a.connection.isOpen = false

lemma Ended.isRunning_eq_false (h : a.Ended) : a.ingestion.isRunning = false :=
  Service.isRunning_eq_false h.task

lemma Started.shutdown (h : a.Started) : a.shutdown.Ended := by
  obtain ⟨entries, hshutdown⟩ := shutdown_eq h
  obtain ⟨hstops, htask⟩ := Service.ends_stop h.started shutdownTimeout
  obtain ⟨hbalanced, hclosed⟩ := Connection.balanced_close (h.of_continues hstops).balanced
  rw [hshutdown]
  exact ⟨⟨h.hasIngestion, h.hasClient, hstops.started.trans h.started, hbalanced⟩, htask, hclosed⟩

lemma started_of_start (hingestion : a.hasIngestion) (hclient : a.hasClient)
    (htask : a.ingestion.task = none) (hbalanced : a.connection.Balanced) :
    Started { a with ingestion := a.ingestion.start.settle } := by
  have hsettles := Service.continues_runTo a.ingestion.start a.ingestion.start.clock none
  have hstarted : a.ingestion.start.stopRequested.isSome := by
    rw [Service.stopRequested_start htask]
    rfl
  have hsink : a.ingestion.start.collector.sink = a.connection := a.ingestion.start_frame.2.1
  exact ⟨hingestion, hclient, hsettles.started.trans hstarted,
    Connection.balanced_of_handed hsettles.handed (hsink ▸ hbalanced)⟩

lemma started_of_start? {site : Site} {files : Files} {decode : Json.Decoder} {settings : Settings}
    {exchanges : List Exchange} (h : start? site files decode settings exchanges = some a) :
    a.Started := by
  obtain ⟨client, -, h⟩ := Option.bind_eq_some_iff.1 h
  obtain ⟨s, hs, h⟩ := Option.bind_eq_some_iff.1 h
  obtain ⟨outbox, -, rfl⟩ := Option.map_eq_some_iff.1 hs
  obtain rfl := Option.some.inj h
  cases settings.search.enabled with
  | true => exact started_of_start rfl rfl rfl rfl
  | false => exact started_of_start rfl rfl rfl rfl

lemma Started.apply (h : a.Started) (step : Step) : (a.apply step).Started := by
  cases step with
  | advance seconds => exact h.of_continues (Service.continues_advance _ _)
  | pass => exact h.of_continues (Service.continues_tick _)
  | stats => exact h
  | search body => exact h.search body
  | searchText body => exact h.searchText body
  | setFiles files => exact ⟨h.hasIngestion, h.hasClient, h.started, h.balanced⟩
  | shutdown => exact h.shutdown.toStarted

lemma Started.run (h : a.Started) (steps : List Step) : (a.run steps).Started := by
  induction steps generalizing a with
  | nil => exact h
  | cons step steps ih => exact ih (h.apply step)

/-! ## After the end -/

/-- Where nothing is running, nothing is sent and nothing is opened unless it is asked for. -/
lemma Ended.apply (h : a.Ended) {step : Step} (hstep : step.isRequest = false) :
    (a.apply step).Ended ∧ (a.apply step).connection = a.connection := by
  cases step with
  | pass => contradiction
  | search body => contradiction
  | searchText body => contradiction
  | stats => exact ⟨h, rfl⟩
  | setFiles files =>
    exact ⟨⟨h.toStarted.apply (.setFiles files), h.task, h.isOpen⟩, rfl⟩
  | advance seconds =>
    obtain ⟨htask, hconnection⟩ := Service.waitUntil_idle h.task
      (a.ingestion.clock + if 0 < seconds then seconds else 0) none
    have hopen := (congrArg Connection.isOpen hconnection).trans h.isOpen
    exact ⟨⟨h.toStarted.apply (.advance seconds), htask, hopen⟩, hconnection⟩
  | shutdown =>
    obtain ⟨entries, hshutdown⟩ := shutdown_eq h.toStarted
    refine ⟨h.toStarted.shutdown, ?_⟩
    show a.shutdown.connection = a.connection
    rw [hshutdown]
    have hsink := (Service.stop_idle h.task shutdownTimeout).2
    show (a.ingestion.stop (some shutdownTimeout)).collector.sink.close.1 = a.connection
    rw [hsink]
    exact congrArg Prod.fst (Connection.close_of_not_isOpen h.isOpen)

lemma Ended.run (h : a.Ended) {steps : List Step}
    (hsteps : ∀ step ∈ steps, step.isRequest = false) :
    (a.run steps).Ended ∧ (a.run steps).connection = a.connection := by
  induction steps generalizing a with
  | nil => exact ⟨h, rfl⟩
  | cons step steps ih =>
    rw [List.forall_mem_cons] at hsteps
    obtain ⟨hended, hconnection⟩ := h.apply hsteps.1
    obtain ⟨hlast, hsame⟩ := ih hended hsteps.2
    exact ⟨hlast, hsame.trans hconnection⟩

/-- **A shutdown leaves nothing running and nothing open.**  Whenever it comes, ingestion has come
to its end and every session has been closed; and unless somebody asks for something, nothing is
running and the connection is as it was ever after, also when the service is shut down again. -/
theorem shutdown_leaves_nothing {site : Site} {files : Files} {decode : Json.Decoder}
    {settings : Settings} {exchanges : List Exchange} {a : Api}
    (h : start? site files decode settings exchanges = some a) (steps : List Step) :
    let ended := (a.run steps).shutdown
    ended.ingestion.isRunning = false ∧ ended.connection.isOpen = false ∧
      ended.connection.opened = ended.connection.closed ∧
      ∀ later : List Step, (∀ step ∈ later, step.isRequest = false) →
        (ended.run later).ingestion.isRunning = false ∧
        (ended.run later).connection = ended.connection := by
  intro ended
  have hended : ended.Ended := ((started_of_start? h).run steps).shutdown
  have hbalanced : ended.connection.opened = ended.connection.closed := by
    rw [hended.balanced, hended.isOpen]
    rfl
  refine ⟨hended.isRunning_eq_false, hended.isOpen, hbalanced, fun later hlater => ?_⟩
  obtain ⟨hlast, hconnection⟩ := hended.run hlater
  exact ⟨hlast.isRunning_eq_false, hconnection⟩

/-- A service is shut down while its first pass waits ten seconds for the answer to a batch: the
session is open then, and the pass is cancelled.  It is shut down once more after a minute. -/
theorem shutdown_leaves_nothing_of_pass :
    let site : Site := ⟨⟨0⟩, "/", "/", ⟨0, by decide⟩⟩
    let files : Files := ⟨[([['a']], .file 0)], [(0, [120, 10])], []⟩
    let search : SearchSettings :=
      ⟨"http://es", none, none, "logs", true, true, true, .zero false, .zero false⟩
    let ingestion : IngestionSettings := ⟨true, ["/a"], 1, .ofInt 2, .ofInt 1⟩
    let settings : Settings := ⟨[], [], [], false, [], ⟨[], 0, 1, false, []⟩, search, ingestion⟩
    ∃ a, start? site files Json.decoder settings [⟨.failure [], 10⟩] = some a ∧
      (a.run [.advance 2]).ingestion.suspension?.isSome ∧
      (a.run [.advance 2]).connection.isOpen = true ∧
      let ended := a.run [.advance 2, .shutdown]
      ended.ingestion.isRunning = false ∧ ended.connection.isOpen = false ∧
        (ended.run [.advance 60, .shutdown]).connection = ended.connection := by
  intro site files search ingestion settings
  obtain ⟨a, ha, hpass, hopen⟩ : ∃ a,
      start? site files Json.decoder settings [⟨.failure [], 10⟩] = some a ∧
        (a.run [.advance 2]).ingestion.suspension?.isSome ∧
        (a.run [.advance 2]).connection.isOpen = true := by
    let client : Client := ⟨"http://es", none, .zero false, .zero false⟩
    let s : Service Connection := ⟨site, search, ingestion,
      .new files ⟨"logs", 1, [], 0, 0, 0, 0⟩ (.new client Json.decoder [⟨.failure [], 10⟩]), 0, 0,
      none, none, 0, 0⟩
    -- the service begins with the delay before its first pass
    let delaying : Service Connection := { s.start with
      timersSet := 2, task := some (.delaying ⟨some (0 + 1), 1⟩) }
    have hdelay : s.start.nextTimer (waitOf ingestion.initialDelay) = ⟨some (0 + 1), 1⟩ := by
      decide +kernel
    have hbegun : s.start.begun = delaying := by
      have htask : s.start.task = some (.created ⟨some (0 + 0), 0⟩) := rfl
      have hlength : isNoWait (waitOf ingestion.initialDelay) = false := by decide +kernel
      refine (Service.begun_of_created htask hlength (by decide)).trans ?_
      change s.start.await (waitOf ingestion.initialDelay) .delaying = delaying
      rw [Service.await, hdelay]
      rfl
    have hsettle : s.start.settle = delaying := by
      rw [Service.settle, Service.runTo, hbegun]
      exact Service.runUntil_of_not_isBefore rfl (by decide +kernel) _
    -- the pass that follows finds the file
    have hfind : files.find "/a" = .file 0 :=
      Files.find_eq_file ['a'] rfl (by decide) (by decide) (by decide)
    have hnormal : Path.normalize site.cwd site.home "/a" = "/a" := by decide +kernel
    have hmake : ({ delaying with clock := 0 + 1 } : Service Connection).makePass = _ :=
      Service.makePass_eq rfl rfl hnormal (by decide) hfind
    have hwake : delaying.wake = ({ delaying with clock := 0 + 1 } : Service Connection).afterPass
        ({ delaying with clock := 0 + 1 } : Service Connection).makePass := rfl
    obtain ⟨hpass, hopen⟩ : (delaying.advance 2).suspension?.isSome ∧
        (delaying.advance 2).collector.sink.isOpen = true := by
      have hmoment : (delaying.clock + if (0 : Rat) < 2 then 2 else 0) = 2 := by decide +kernel
      have hfuel : delaying.wakesUntil 2 = 3 + 1 := by decide +kernel
      have htask : delaying.task = some (.delaying ⟨some (0 + 1), 1⟩) := rfl
      have hdue : (Task.delaying ⟨some (0 + 1), 1⟩).timer.isBefore 2 none := by decide +kernel
      have hrun : delaying.runTo 2 none = Service.runUntil 2 none 3 delaying.wake := by
        change Service.runUntil 2 none (delaying.wakesUntil 2) delaying = _
        rw [hfuel]
        exact Service.runUntil_succ htask hdue 3
      rw [Service.advance, hmoment, Service.waitUntil, hrun, hwake, hmake]
      exact ⟨by decide +kernel, by decide +kernel⟩
    have hrun (t : Service Connection) (e : Option Executor) :
        run ⟨t, e, true, true⟩ [.advance 2] = ⟨t.advance 2, e, true, true⟩ := rfl
    refine ⟨⟨s.start.settle, some ⟨"logs", true⟩, true, true⟩, rfl, ?_⟩
    rw [hrun, hsettle]
    exact ⟨hpass, hopen⟩
  obtain ⟨hidle, hclosed, -, hlater⟩ := shutdown_leaves_nothing ha [.advance 2]
  have hquiet : ∀ step ∈ [Step.advance 60, .shutdown], step.isRequest = false := by
    decide
  exact ⟨a, ha, hpass, hopen, hidle, hclosed, (hlater _ hquiet).2⟩

end Api

end LogSearch
