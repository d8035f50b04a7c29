import LogSearch.Ingestion.Service
import LogSearch.Proofs.Ingestion.Conservation
import Mathlib.Data.List.Perm.Basic

/-!
# The books of the service

The service makes passes in the background, and others may be made in the foreground at the same
time.  They share the collector, and wherever one of them waits for an outcome, anything may happen
before it goes on.  A `Scene` is a moment at which nothing goes on: the service with what its
background waits for, the passes in the foreground with what each of them waits for, and the number
of documents that were in a request when what waited for it was cancelled.  An `Action` is one thing
that happens then, up to the next such moment.  What an action does is done by the functions of the
service; the scene only keeps what they return.
-/

namespace LogSearch.Ingestion

/-! ## Moments at which nothing goes on -/

/-- What is waited for, of what is done in the background. -/
def Task.suspension? : Task → Option Suspension
  | .passing _ s _ => some s
  | .created _ | .delaying _ | .resting _ | .turning _ => none

/-- What the background waits for. -/
def Service.suspension? {σ : Type} (s : Service σ) : Option Suspension :=
  s.task.bind Task.suspension?

/-- The background is in a delay that a stop ends. -/
def Service.isDelaying {σ : Type} (s : Service σ) : Bool := s.task.any Task.isDelay

/-- What a pass that is suspended needs to go on. -/
def PassResult.left? : PassResult → Option (Suspension × List Text)
  | .suspended s paths => some (s, paths)
  | .finished | .failed _ => none

/-- The service, the passes in the foreground, and the number of documents that cancellations have
cost. -/
structure Scene (σ : Type) where
  service : Service σ
  passes : List (Suspension × List Text)
  lost : Nat

/-- What can happen next. -/
inductive Action where
  /-- What has been created in the background begins. -/
  | settleIn
  /-- What the background waits for is there. -/
  | wake
  /-- A pass is begun in the foreground. -/
  | beginPass
  /-- What a pass in the foreground waits for is there. -/
  | resumePass (place : Nat)
  /-- A pass in the foreground is cancelled. -/
  | cancelPass (place : Nat)
  /-- The background is cancelled. -/
  | cancel
  | start
  | requestStop
  /-- A delay in the background comes to its end because a stop was requested. -/
  | endDelay
  | report (severity : Severity) (message : Text)
  | setTime (clock : Rat) (timersSet : Nat)
  | setSettings (search : SearchSettings) (ingestion : IngestionSettings)
  | setFiles (files : Files)

namespace Scene

variable {σ : Type}

/-- What is waited for, in the background and in the foreground. -/
def suspensions (s : Scene σ) : List Suspension :=
  s.service.suspension?.toList ++ s.passes.map Prod.fst

/-- The number of documents in the requests that are under way. -/
def inFlight (s : Scene σ) : Nat := (s.suspensions.flatMap Suspension.batch).length

/-- The scene with what a part of a pass in the foreground has come to. -/
def withPass (s : Scene σ) (r : Collector σ × PassResult) : Scene σ :=
  { s with service := { s.service with collector := r.1 }, passes := s.passes ++ r.2.left?.toList }

/-- What an action takes away from what waits for an outcome. -/
def cancelled? (s : Scene σ) : Action → Option Suspension
  | .cancel => s.service.suspension?
  | .cancelPass place => s.passes[place]?.map Prod.fst
  | _ => none

/-- The scene after an action. -/
def after [Sink σ] (s : Scene σ) : Action → Scene σ
  | .settleIn => { s with service := s.service.begun }
  | .wake => { s with service := s.service.wake }
  | .beginPass => if s.service.isActive then s.withPass s.service.makePass else s
  | .resumePass place =>
    match s.passes[place]? with
    | none => s
    | some (suspension, paths) =>
      { s with passes := s.passes.eraseIdx place }.withPass
        (s.service.collector.resumePass s.service.site suspension paths)
  | .cancelPass place =>
    { s with passes := s.passes.eraseIdx place,
             lost := s.lost + Ingestion.inFlight (s.cancelled? (.cancelPass place)) }
  | .cancel =>
    { s with service := s.service.cancel,
             lost := s.lost + Ingestion.inFlight (s.cancelled? .cancel) }
  | .start => { s with service := s.service.start }
  | .requestStop => { s with service := { s.service with stopRequested := some true } }
  | .endDelay =>
    if s.service.isDelaying then { s with service := { s.service with task := none } } else s
  | .report severity message => { s with service := s.service.report severity message }
  | .setTime clock timersSet =>
    { s with service := { s.service with clock := clock, timersSet := timersSet } }
  | .setSettings search ingestion =>
    { s with service := { s.service with search := search, ingestion := ingestion } }
  | .setFiles files =>
    { s with service := { s.service with collector := { s.service.collector with files := files } } }

/-- The scene after actions. -/
def run [Sink σ] (s : Scene σ) (actions : List Action) : Scene σ := actions.foldl after s

lemma run_append [Sink σ] (s : Scene σ) (actions actions' : List Action) :
    s.run (actions ++ actions') = (s.run actions).run actions' :=
  List.foldl_append

end Scene

/-! ## The service keeps the books -/

namespace Service

variable {σ : Type}

lemma rest_frame (s : Service σ) : s.rest.collector = s.collector ∧ s.rest.suspension? = none := by
  simp only [rest]
  split
  · exact ⟨rfl, rfl⟩
  · split
    · exact ⟨rfl, rfl⟩
    · exact ⟨rfl, rfl⟩

/-- After a part of a pass the background waits for what the pass waits for, and the collector is
the one of the pass, but for the journal. -/
lemma afterPass_frame (s : Service σ) (r : Collector σ × PassResult) :
    (s.afterPass r).collector.outbox = r.1.outbox ∧ (s.afterPass r).collector.sink = r.1.sink ∧
      (s.afterPass r).collector.counts = r.1.counts ∧
      (s.afterPass r).suspension? = r.2.suspension? := by
  obtain ⟨c, _ | fault | ⟨suspension, paths⟩⟩ := r
  · obtain ⟨hcollector, hnone⟩ := rest_frame { s with collector := c, ticks := s.ticks + 1 }
    rw [afterPass, hcollector, hnone]
    exact ⟨rfl, rfl, rfl, rfl⟩
  · rw [afterPass]
    exact ⟨(congrArg Collector.outbox (rest_frame _).1).trans rfl,
      (congrArg Collector.sink (rest_frame _).1).trans rfl,
      (congrArg Collector.counts (rest_frame _).1).trans rfl, (rest_frame _).2⟩
  · exact ⟨rfl, rfl, rfl, rfl⟩

lemma cancel_frame (s : Service σ) :
    s.cancel.collector.outbox = s.collector.outbox ∧ s.cancel.collector.sink = s.collector.sink ∧
      s.cancel.collector.counts = s.collector.counts ∧ s.cancel.suspension? = none := by
  rw [cancel]
  split
  next htask => exact ⟨rfl, rfl, rfl, by rw [suspension?, htask]; rfl⟩
  all_goals exact ⟨rfl, rfl, rfl, rfl⟩

lemma exists_cancel_eq (s : Service σ) : ∃ c : Collector σ,
    c.sink = s.collector.sink ∧ s.cancel = { s with collector := c, task := none } := by
  rw [cancel]
  split
  next htask => exact ⟨s.collector, rfl, by rw [← htask]⟩
  next => exact ⟨s.collector, rfl, rfl⟩
  next => exact ⟨s.collector, rfl, rfl⟩
  all_goals exact ⟨s.collector.report .info "Ingestion cancelled", rfl, rfl⟩

/-- A background that begins waits for no outcome, neither before nor after. -/
lemma begun_frame (s : Service σ) :
    s.begun.collector = s.collector ∧ s.begun.suspension? = s.suspension? := by
  rw [begun]
  split
  next timer htask =>
    have hnone : s.suspension? = none := by
      rw [suspension?, htask]
      rfl
    simp only
    split
    · exact ⟨rfl, rfl⟩
    · split
      · exact ⟨rfl, hnone.symm⟩
      · exact ⟨rfl, hnone.symm⟩
  next => exact ⟨rfl, rfl⟩

lemma begun_of_created {s : Service σ} {timer : Timer} (htask : s.task = some (.created timer))
    (hlength : isNoWait (waitOf s.ingestion.initialDelay) = false)
    (hstop : s.stopRequested ≠ some true) :
    s.begun = s.await (waitOf s.ingestion.initialDelay) .delaying := by
  rw [begun, htask]
  simp only
  rw [if_neg (ne_true_of_eq_false hlength), if_neg hstop]

lemma suspension?_of_isDelaying {s : Service σ} (h : s.isDelaying) : s.suspension? = none := by
  cases htask : s.task with
  | none =>
    rw [suspension?, htask]
    rfl
  | some task =>
    rw [isDelaying, htask] at h
    rw [suspension?, htask]
    cases task with
    | passing timer x paths => exact absurd h Bool.false_ne_true
    | _ => rfl

lemma start_frame (s : Service σ) :
    s.start.collector.outbox = s.collector.outbox ∧ s.start.collector.sink = s.collector.sink ∧
      s.start.collector.counts = s.collector.counts ∧ s.start.suspension? = s.suspension? := by
  simp only [start]
  split
  next => exact ⟨rfl, rfl, rfl, rfl⟩
  next hstopped =>
    have hnone : s.suspension? = none := by
      rw [isRunning, Option.not_isSome_iff_eq_none] at hstopped
      rw [suspension?, hstopped]
      rfl
    rw [hnone]
    split
    · exact ⟨rfl, rfl, rfl, rfl⟩
    · exact ⟨rfl, rfl, rfl, rfl⟩

section Idle

variable [Sink σ] {s : Service σ}

omit [Sink σ] in
lemma isRunning_eq_false (h : s.task = none) : s.isRunning = false := by
  rw [isRunning, h]
  rfl

omit [Sink σ] in
lemma begun_idle (h : s.task = none) : s.begun = s := by
  rw [begun, h]

/-- Nothing is done in the background before something falls due. -/
lemma runUntil_of_not_isBefore {task : Task} {moment : Rat} {number : Option Nat}
    (htask : s.task = some task) (h : task.timer.isBefore moment number = false) (fuel : Nat) :
    runUntil moment number fuel s = s := by
  cases fuel with
  | zero => rfl
  | succ fuel =>
    rw [runUntil, htask]
    exact if_neg (ne_true_of_eq_false h)

/-- What falls due first is done first. -/
lemma runUntil_succ {task : Task} {moment : Rat} {number : Option Nat}
    (htask : s.task = some task) (h : task.timer.isBefore moment number) (fuel : Nat) :
    runUntil moment number (fuel + 1) s = runUntil moment number fuel s.wake := by
  rw [runUntil, htask]
  exact if_pos h

/-- Where there is no background, time goes by, and that is all. -/
lemma runTo_idle (h : s.task = none) (moment : Rat) (number : Option Nat) :
    s.runTo moment number = s := by
  simp only [runTo, begun_idle h]
  cases s.wakesUntil moment with
  | zero => rfl
  | succ fuel => rw [runUntil, h]

lemma waitUntil_idle (h : s.task = none) (moment : Rat) (number : Option Nat) :
    (s.waitUntil moment number).task = none ∧
      (s.waitUntil moment number).collector.sink = s.collector.sink := by
  rw [waitUntil, runTo_idle h]
  exact ⟨h, rfl⟩

lemma stop_idle (h : s.task = none) (timeout : Option Rat) :
    (s.stop timeout).task = none ∧
      (s.stop timeout).collector.sink = s.collector.sink := by
  rw [stop]
  split
  · exact ⟨h, rfl⟩
  · rw [h]
    exact ⟨rfl, rfl⟩

end Idle

/-- A pass that has one path to look at and finds a file there. -/
lemma makePass_eq [Sink σ] {s : Service σ} {configured path : Text} {number : Nat}
    (hactive : s.isActive) (hpaths : s.ingestion.paths = [configured])
    (hnormal : Path.normalize s.site.cwd s.site.home configured = path)
    (hnul : Char.ofNat 0 ∉ path) (hfind : s.collector.files.find path = .file number) :
    s.makePass = Collector.proceed path [] (fun c => (c, .finished))
      (s.collector.readFile s.site path number) := by
  rw [makePass, if_pos hactive, hpaths, Collector.pass, hnormal, Collector.tail, if_neg hnul, hfind]
  rfl

lemma kept_makePass {s : Service ScriptedSink} (h : s.collector.Sound) :
    s.collector.Kept 0 s.makePass.1 s.makePass.2.suspension? := by
  rw [makePass]
  split
  · exact h.kept_pass _
  · exact h.kept rfl rfl rfl

end Service

namespace Scene

/-- The books of a scene.  The documents that have neither been booked nor are waiting are in the
requests under way, or were lost in a cancellation.  At most so many answers of the sink are still
to come. -/
structure Balanced (capacity answers : Nat) (s : Scene ScriptedSink) : Prop where
  sound : s.service.collector.Sound
  capacity_eq : s.service.collector.outbox.capacity = capacity
  script_le : s.service.collector.sink.script.length ≤ answers
  held : ∀ x ∈ s.suspensions, x.batch.length ≤ capacity ∧ x.outcome.IsBooked
  unbooked : s.service.collector.unbooked = s.inFlight + s.lost

variable {s s' : Scene ScriptedSink} {capacity answers : Nat}

lemma inFlight_eq (s : Scene ScriptedSink) :
    s.inFlight =
      Ingestion.inFlight s.service.suspension? + (s.passes.flatMap fun p => p.1.batch).length := by
  rw [inFlight, suspensions, List.flatMap_append, List.length_append, List.flatMap_map]
  cases s.service.suspension? with
  | none => rfl
  | some x => simp [Ingestion.inFlight]

/-- A pass is part of those in the foreground. -/
lemma length_batches_eraseIdx {passes : List (Suspension × List Text)} {place : Nat}
    {x : Suspension} {paths : List Text} (h : passes[place]? = some (x, paths)) :
    x.batch.length + ((passes.eraseIdx place).flatMap fun p => p.1.batch).length =
      (passes.flatMap fun p => p.1.batch).length := by
  obtain ⟨hplace, hget⟩ := List.getElem?_eq_some_iff.1 h
  have hperm := List.getElem_cons_eraseIdx_perm hplace
  rw [hget] at hperm
  have hlength := (hperm.flatMap_right fun p => p.1.batch).length_eq
  rw [List.flatMap_cons, List.length_append] at hlength
  exact hlength

/-- A part of a pass, in the background or in the foreground, keeps the books of the scene. -/
lemma Balanced.of_kept (h : Balanced capacity answers s) {before : Nat} {c : Collector ScriptedSink}
    {x? : Option Suspension} (hkept : s.service.collector.Kept before c x?)
    (houtbox : s'.service.collector.outbox = c.outbox) (hsink : s'.service.collector.sink = c.sink)
    (hcounts : s'.service.collector.counts = c.counts)
    (hheld : ∀ x ∈ s'.suspensions, x ∈ s.suspensions ∨ x ∈ x?)
    (hflight : s'.inFlight + before = s.inFlight + Ingestion.inFlight x?)
    (hlost : s'.lost = s.lost) : Balanced capacity answers s' := by
  have hsame := hkept.sound.kept houtbox hsink hcounts
  refine ⟨hsame.sound, (hsame.capacity.trans hkept.capacity).trans h.capacity_eq, ?_, ?_, ?_⟩
  · rw [hsink]
    exact Nat.le_trans (Nat.le_of_add_right_le hkept.script) h.script_le
  · intro x hx
    rcases hheld x hx with hx | hx
    · exact h.held x hx
    · rw [← h.capacity_eq]
      exact hkept.held x hx
  · have hpart := hkept.unbooked
    have hcopy := hsame.unbooked
    have hbefore := h.unbooked
    simp only [Ingestion.inFlight] at hcopy
    omega

lemma Balanced.of_same (h : Balanced capacity answers s)
    (houtbox : s'.service.collector.outbox = s.service.collector.outbox)
    (hsink : s'.service.collector.sink = s.service.collector.sink)
    (hcounts : s'.service.collector.counts = s.service.collector.counts)
    (hsuspension : s'.service.suspension? = s.service.suspension?) (hpasses : s'.passes = s.passes)
    (hlost : s'.lost = s.lost) : Balanced capacity answers s' := by
  have hsuspensions : s'.suspensions = s.suspensions := by
    rw [suspensions, suspensions, hsuspension, hpasses]
  refine h.of_kept (h.sound.kept rfl rfl rfl) houtbox hsink hcounts ?_ ?_ hlost
  · intro x hx
    rw [hsuspensions] at hx
    exact .inl hx
  · rw [inFlight, inFlight, hsuspensions]
    rfl

lemma Balanced.withPass (h : Balanced capacity answers s) {before : Nat}
    {passes : List (Suspension × List Text)} {r : Collector ScriptedSink × PassResult}
    (hkept : s.service.collector.Kept before r.1 r.2.suspension?)
    (hpasses : ∀ p ∈ passes, p ∈ s.passes)
    (hflight : before + (passes.flatMap fun p => p.1.batch).length =
      (s.passes.flatMap fun p => p.1.batch).length) :
    Balanced capacity answers ({ s with passes := passes }.withPass r) := by
  have hleft : r.2.left?.toList.map Prod.fst = r.2.suspension?.toList := by
    cases r.2 <;> rfl
  refine h.of_kept hkept rfl rfl rfl ?_ ?_ rfl
  · intro x hx
    simp only [Scene.withPass, suspensions, List.map_append, List.mem_append, hleft] at hx
    rcases hx with hx | hx | hx
    · exact .inl (List.mem_append_left _ hx)
    · obtain ⟨p, hp, rfl⟩ := List.mem_map.1 hx
      exact .inl (List.mem_append_right _ (List.mem_map_of_mem (hpasses p hp)))
    · exact .inr (Option.mem_toList.1 hx)
  · rw [inFlight_eq, inFlight_eq]
    have hbatch : (r.2.left?.toList.flatMap fun p => p.1.batch).length =
        Ingestion.inFlight r.2.suspension? := by
      cases r.2 with
      | finished => rfl
      | failed fault => rfl
      | suspended x paths => simp [PassResult.left?, PassResult.suspension?, Ingestion.inFlight]
    have hservice : ({ s with passes := passes }.withPass r).service.suspension? =
        s.service.suspension? := rfl
    have hall : ({ s with passes := passes }.withPass r).passes = passes ++ r.2.left?.toList := rfl
    rw [hservice, hall, List.flatMap_append, List.length_append, hbatch]
    omega

/-- What the background waits for is there: the next part of its pass, or its next pass, keeps the
books. -/
lemma Balanced.wake (h : Balanced capacity answers s) :
    Balanced capacity answers { s with service := s.service.wake } := by
  cases htask : s.service.task with
  | none =>
    have hwake : s.service.wake = s.service := by rw [Service.wake, htask]
    rw [hwake]
    exact h
  | some task =>
    -- the part of a pass that is made, and the documents that were in its request
    have hpart : ∃ r : Collector ScriptedSink × PassResult,
        s.service.collector.Kept (Ingestion.inFlight s.service.suspension?) r.1
          r.2.suspension? ∧
        ∃ before : Service ScriptedSink, s.service.wake = before.afterPass r := by
      rw [Service.wake, htask]
      cases task with
      | passing timer x paths =>
        have hsuspension : s.service.suspension? = some x := by
          rw [Service.suspension?, htask]
          rfl
        have hmem : x ∈ s.suspensions := by
          rw [suspensions, hsuspension]
          exact List.mem_cons_self
        rw [hsuspension]
        exact ⟨_, h.sound.kept_resumePass (h.held x hmem).2 paths, _, rfl⟩
      | created timer | delaying timer | resting timer | turning timer =>
        rw [Service.suspension?, htask]
        exact ⟨_, Service.kept_makePass (s := { s.service with
          clock := timer.due.getD s.service.clock }) h.sound, _, rfl⟩
    obtain ⟨r, hkept, before, hwake⟩ := hpart
    obtain ⟨houtbox, hsink, hcounts, hsuspension⟩ := before.afterPass_frame r
    rw [← hwake] at houtbox hsink hcounts hsuspension
    refine h.of_kept hkept houtbox hsink hcounts ?_ ?_ rfl
    · intro x hx
      simp only [suspensions, hsuspension, List.mem_append, Option.mem_toList] at hx
      rcases hx with hx | hx
      · exact .inr hx
      · exact .inl (List.mem_append_right _ hx)
    · rw [inFlight_eq, inFlight_eq, hsuspension]
      simp only
      omega

lemma Balanced.cancelPass (h : Balanced capacity answers s) (place : Nat) :
    Balanced capacity answers (s.after (.cancelPass place)) := by
  have hpasses : (s.after (.cancelPass place)).passes = s.passes.eraseIdx place := rfl
  have hservice : (s.after (.cancelPass place)).service = s.service := rfl
  have hlost : (s.after (.cancelPass place)).lost =
      s.lost + Ingestion.inFlight (s.passes[place]?.map Prod.fst) := rfl
  refine ⟨h.sound, h.capacity_eq, h.script_le, fun x hx => h.held x ?_, ?_⟩
  · rw [suspensions, hpasses, hservice] at hx
    exact (List.mem_append.1 hx).elim (List.mem_append_left _) fun hx =>
      List.mem_append_right _ (List.map_subset _ (List.eraseIdx_subset ..) hx)
  · have hunbooked := h.unbooked
    rw [inFlight_eq] at hunbooked ⊢
    rw [hpasses, hservice, hlost]
    cases hplace : s.passes[place]? with
    | none =>
      rw [List.eraseIdx_of_length_le (List.getElem?_eq_none_iff.1 hplace)]
      exact hunbooked
    | some p =>
      obtain ⟨x, paths⟩ := p
      have hlength := length_batches_eraseIdx hplace
      simp only [Option.map_some, Ingestion.inFlight] at hunbooked ⊢
      omega

lemma Balanced.cancel (h : Balanced capacity answers s) :
    Balanced capacity answers (s.after .cancel) := by
  obtain ⟨houtbox, hsink, hcounts, hsuspension⟩ := s.service.cancel_frame
  have hsame : s.service.collector.Kept 0 s.service.cancel.collector none :=
    h.sound.kept houtbox hsink hcounts
  refine ⟨hsame.sound, hsame.capacity.trans h.capacity_eq, Nat.le_trans hsame.script h.script_le,
    fun x hx => h.held x ?_, ?_⟩
  · simp only [suspensions, after, hsuspension] at hx
    exact List.mem_append_right _ hx
  · have hunbooked := h.unbooked
    have hcopy := hsame.unbooked
    rw [inFlight_eq] at hunbooked ⊢
    simp only [after, cancelled?, hsuspension, Ingestion.inFlight] at hcopy hunbooked ⊢
    omega

/-- The step: every action keeps the books. -/
lemma Balanced.after (h : Balanced capacity answers s) (action : Action) :
    Balanced capacity answers (s.after action) := by
  cases action with
  | settleIn =>
    obtain ⟨hcollector, hsuspension⟩ := s.service.begun_frame
    exact h.of_same (congrArg Collector.outbox hcollector) (congrArg Collector.sink hcollector)
      (congrArg Collector.counts hcollector) hsuspension rfl rfl
  | wake => exact h.wake
  | beginPass =>
    rw [Scene.after]
    split
    · exact h.withPass (Service.kept_makePass h.sound) (fun p => id) (Nat.zero_add _)
    · exact h
  | resumePass place =>
    rw [Scene.after]
    split
    next => exact h
    next x paths hplace =>
      have hmem : x ∈ s.suspensions :=
        List.mem_append_right _ (List.mem_map_of_mem (List.mem_of_getElem? hplace))
      exact h.withPass (h.sound.kept_resumePass (h.held x hmem).2 paths)
        (fun p hp => List.mem_of_mem_eraseIdx hp) (length_batches_eraseIdx hplace)
  | cancelPass place => exact h.cancelPass place
  | cancel => exact h.cancel
  | start =>
    obtain ⟨houtbox, hsink, hcounts, hsuspension⟩ := s.service.start_frame
    exact h.of_same houtbox hsink hcounts hsuspension rfl rfl
  | requestStop => exact h.of_same rfl rfl rfl rfl rfl rfl
  | endDelay =>
    rw [Scene.after]
    split
    next hdelay =>
      exact h.of_same rfl rfl rfl (Service.suspension?_of_isDelaying hdelay).symm rfl rfl
    next => exact h
  | report severity message => exact h.of_same rfl rfl rfl rfl rfl rfl
  | setTime clock timersSet => exact h.of_same rfl rfl rfl rfl rfl rfl
  | setSettings search ingestion => exact h.of_same rfl rfl rfl rfl rfl rfl
  | setFiles files => exact h.of_same rfl rfl rfl rfl rfl rfl

/-- The run: so does any number of them. -/
lemma Balanced.run (h : Balanced capacity answers s) (actions : List Action) :
    Balanced capacity answers (s.run actions) := by
  induction actions generalizing s with
  | nil => exact h
  | cons action actions ih => exact ih (h.after action)

/-! ## Cancellations -/

/-- What is lost is in a request that was cancelled. -/
lemma lost_after (s : Scene ScriptedSink) (action : Action) :
    (s.after action).lost = s.lost + Ingestion.inFlight (s.cancelled? action) := by
  cases action with
  | cancelPass place => rfl
  | cancel => rfl
  | beginPass =>
    rw [after]
    split <;> rfl
  | resumePass place =>
    rw [after]
    split <;> rfl
  | endDelay =>
    rw [after]
    split <;> rfl
  | _ => rfl

lemma mem_suspensions_of_cancelled? {x : Suspension} {action : Action}
    (h : s.cancelled? action = some x) : x ∈ s.suspensions := by
  cases action with
  | cancel => exact List.mem_append_left _ (Option.mem_toList.2 h)
  | cancelPass place =>
    obtain ⟨p, hp, rfl⟩ := Option.map_eq_some_iff.1 h
    exact List.mem_append_right _ (List.mem_map_of_mem (List.mem_of_getElem? hp))
  | _ => simp [cancelled?] at h

/-- A cancellation costs one batch at most. -/
lemma Balanced.inFlight_cancelled?_le (h : Balanced capacity answers s) (action : Action) :
    Ingestion.inFlight (s.cancelled? action) ≤ capacity := by
  cases hcancelled : s.cancelled? action with
  | none => exact Nat.zero_le _
  | some x => exact (h.held x (mem_suspensions_of_cancelled? hcancelled)).1

end Scene

end LogSearch.Ingestion
