import LogSearch.Proofs.Ingestion.Apart
import LogSearch.Proofs.Ingestion.Scenes
import LogSearch.Search.Client

/-!
# No parsed line disappears

Whatever is asked of the service, what comes of it is a run of actions (`Scene`): waiting is a run
of wakes, a stop that is not graceful ends with a cancellation, and a pass in the foreground is
begun and resumed while the background goes on.  The books of every scene therefore hold between any
two requests to the service, and also in the middle of one.

`books_of_run` is the statement.  What it needs of the answers of the sink is that they can be
booked (`Outcome.IsBooked`).  A reply with text that is not UTF-8 cannot: its batch is neither
shipped nor dropped, and its documents are in no books (`document_disappears`).
-/

namespace LogSearch.Ingestion

/-- Something that waits for an outcome is given up. -/
def Action.isCancel : Action → Bool
  | .cancel | .cancelPass _ => true
  | _ => false

namespace Service

variable {s s' s'' : Service ScriptedSink} {cancels : Bool}

/-! ## What is asked of the service is a run of actions -/

/-- The service comes from one state to another by actions which leave the passes in the foreground
alone, and which cancel nothing unless `cancels`. -/
structure Comes (cancels : Bool) (s s' : Service ScriptedSink) : Prop where
  exists_run : ∀ passes lost, ∃ actions lost',
    Scene.run ⟨s, passes, lost⟩ actions = ⟨s', passes, lost'⟩ ∧
      ∀ action ∈ actions, action.isCancel → cancels

lemma Comes.refl (s : Service ScriptedSink) : Comes cancels s s :=
  ⟨fun _ lost => ⟨[], lost, rfl, List.forall_mem_nil _⟩⟩

lemma Comes.trans (h : Comes cancels s s') (h' : Comes cancels s' s'') : Comes cancels s s'' := by
  refine ⟨fun passes lost => ?_⟩
  obtain ⟨actions, lost₁, hrun, hcancels⟩ := h.exists_run passes lost
  obtain ⟨actions', lost₂, hrun', hcancels'⟩ := h'.exists_run passes lost₁
  refine ⟨actions ++ actions', lost₂, by rw [Scene.run_append, hrun, hrun'], ?_⟩
  exact List.forall_mem_append.2 ⟨hcancels, hcancels'⟩

lemma Comes.of_after (action : Action) (hcancel : action.isCancel = false)
    (h : ∀ passes lost, Scene.after ⟨s, passes, lost⟩ action = ⟨s', passes, lost⟩) :
    Comes cancels s s' := by
  refine ⟨fun passes lost => ⟨[action], lost, h passes lost, ?_⟩⟩
  rw [List.forall_mem_singleton, hcancel]
  exact fun hc => absurd hc Bool.false_ne_true

lemma comes_begun (s : Service ScriptedSink) : Comes cancels s s.begun :=
  .of_after .settleIn rfl fun _ _ => rfl

lemma comes_wake (s : Service ScriptedSink) : Comes cancels s s.wake :=
  .of_after .wake rfl fun _ _ => rfl

lemma comes_cancel (s : Service ScriptedSink) : Comes true s s.cancel :=
  ⟨fun _ _ => ⟨[.cancel], _, rfl, fun _ _ _ => rfl⟩⟩

lemma comes_start (s : Service ScriptedSink) : Comes cancels s s.start :=
  .of_after .start rfl fun _ _ => rfl

lemma comes_report (s : Service ScriptedSink) (severity : Severity) (message : Text) :
    Comes cancels s (s.report severity message) :=
  .of_after (.report severity message) rfl fun _ _ => rfl

lemma comes_setTime (s : Service ScriptedSink) (clock : Rat) (timersSet : Nat) :
    Comes cancels s { s with clock := clock, timersSet := timersSet } :=
  .of_after (.setTime clock timersSet) rfl fun _ _ => rfl

lemma comes_endDelay (h : s.isDelaying) : Comes cancels s { s with task := none } :=
  .of_after .endDelay rfl fun _ _ => if_pos h

lemma comes_runUntil (moment : Rat) (number : Option Nat) (fuel : Nat) (s : Service ScriptedSink) :
    Comes cancels s (runUntil moment number fuel s) := by
  induction fuel generalizing s with
  | zero => exact .refl s
  | succ fuel ih =>
    rw [runUntil]
    split
    · exact .refl s
    · split
      · exact (comes_wake s).trans (ih s.wake)
      · exact .refl s

lemma comes_runOut (fuel : Nat) (s : Service ScriptedSink) : Comes cancels s (runOut fuel s) := by
  induction fuel generalizing s with
  | zero => exact .refl s
  | succ fuel ih =>
    rw [runOut]
    split
    · exact (comes_wake s).trans (ih s.wake)
    · exact .refl s

lemma comes_runTo (s : Service ScriptedSink) (moment : Rat) (number : Option Nat) :
    Comes cancels s (s.runTo moment number) :=
  s.comes_begun.trans (comes_runUntil ..)

lemma comes_waitUntil (s : Service ScriptedSink) (moment : Rat) (number : Option Nat) :
    Comes cancels s (s.waitUntil moment number) :=
  (s.comes_runTo moment number).trans (comes_setTime _ _ (s.runTo moment number).timersSet)

lemma comes_pause (s : Service ScriptedSink) (seconds : Rat) :
    Comes cancels s (s.pause seconds) :=
  (s.comes_setTime s.clock (s.timersSet + 1)).trans (comes_waitUntil ..)

lemma comes_forceStop (s : Service ScriptedSink) : Comes true s s.forceStop :=
  s.comes_cancel.trans (comes_report ..)

lemma comes_awaitEnd (s : Service ScriptedSink) (timeout : Option Rat) :
    Comes timeout.isSome s (s.awaitEnd timeout) := by
  cases timeout with
  | none => exact s.comes_begun.trans (comes_runOut ..)
  | some w =>
    rw [awaitEnd]
    split
    · exact s.comes_forceStop
    · refine (s.comes_runTo (s.clock + w) (some s.timersSet)).trans ?_
      simp only
      split
      · exact (comes_setTime _ (s.clock + w) _).trans (comes_forceStop _)
      · exact .refl _

/-- A stop, graceful or not.  Only one with a time-out can cancel something. -/
lemma comes_stop (s : Service ScriptedSink) (timeout : Option Rat) :
    Comes timeout.isSome s (s.stop timeout) := by
  rw [stop]
  split
  · exact .refl s
  · have hrequest : Comes timeout.isSome s { s with stopRequested := some true } :=
      .of_after .requestStop rfl fun _ _ => rfl
    refine hrequest.trans (Comes.trans ?_ (comes_report ..))
    simp only
    split
    next => exact .refl _
    next task htask =>
      split
      next hdelay => exact comes_endDelay (by rw [isDelaying, htask]; exact hdelay)
      next => exact comes_awaitEnd ..

lemma comes_sleep (s : Service ScriptedSink) (wait : Option Rat) :
    Comes cancels s (s.sleep wait).2 := by
  rw [sleep]
  split
  · exact .refl s
  · split
    · exact s.comes_begun
    · split
      · exact .refl s
      · exact comes_pause ..

/-! ## Passes in the foreground -/

variable {capacity answers : Nat} {passes : List (Suspension × List Text)} {lost : Nat}

/-- A pass that needs to go on waits for one outcome. -/
lemma length_suspension? {r : PassResult} (h : r.left?.isSome) :
    r.suspension?.toList.length = 1 := by
  cases r with
  | finished => simp [PassResult.left?] at h
  | failed fault => simp [PassResult.left?] at h
  | suspended x paths => rfl

/-- The last of the passes in the foreground goes on. -/
lemma after_resumePass_last (s : Service ScriptedSink) (x : Suspension) (paths : List Text) :
    Scene.after ⟨s, passes ++ [(x, paths)], lost⟩ (.resumePass passes.length) =
      ⟨{ s with collector := (s.collector.resumePass s.site x paths).1 },
        passes ++ (s.collector.resumePass s.site x paths).2.left?.toList, lost⟩ := by
  have herase : (passes ++ [(x, paths)]).eraseIdx passes.length = passes := by
    rw [List.eraseIdx_append_of_length_le (Nat.le_refl _), Nat.sub_self, List.eraseIdx_cons_zero,
      List.append_nil]
  rw [Scene.after]
  simp only [List.getElem?_concat_length, herase]
  rfl

/-- A pass in the foreground is resumed until it has come to its end, while the background goes on.
The fuel is enough when there is more of it than answers still to come. -/
lemma exists_run_finishPass (cancels : Bool) {fuel : Nat}
    {r : Collector ScriptedSink × PassResult}
    (h : Scene.Balanced capacity answers
      ⟨{ s with collector := r.1 }, passes ++ r.2.left?.toList, lost⟩)
    (hfuel : r.2.left?.isSome → r.1.sink.script.length < fuel) :
    ∃ actions lost', Scene.run ⟨{ s with collector := r.1 }, passes ++ r.2.left?.toList, lost⟩
        actions = ⟨(finishPass fuel s r).1, passes, lost'⟩ ∧
      ∀ action ∈ actions, action.isCancel → cancels := by
  induction fuel generalizing s r lost answers with
  | zero =>
    obtain ⟨c, _ | fault | ⟨x, paths⟩⟩ := r
    · exact ⟨[], lost, by simp [Scene.run, finishPass, PassResult.left?], List.forall_mem_nil _⟩
    · exact ⟨[], lost, by simp [Scene.run, finishPass, PassResult.left?], List.forall_mem_nil _⟩
    · exact absurd (hfuel rfl) (Nat.not_lt_zero _)
  | succ fuel ih =>
    obtain ⟨c, _ | fault | ⟨x, paths⟩⟩ := r
    · exact ⟨[], lost, by simp [Scene.run, finishPass, PassResult.left?], List.forall_mem_nil _⟩
    · exact ⟨[], lost, by simp [Scene.run, finishPass, PassResult.left?], List.forall_mem_nil _⟩
    · have hanswers : Scene.Balanced capacity c.sink.script.length
          ⟨{ s with collector := c }, passes ++ [(x, paths)], lost⟩ :=
        ⟨h.sound, h.capacity_eq, Nat.le_refl _, h.held, h.unbooked⟩
      -- the background goes on while the outcome is waited for
      have hpause : Comes cancels { s with collector := c }
          (({ s with collector := c } : Service ScriptedSink).pause x.delay) := comes_pause ..
      obtain ⟨actions, lost₁, hrun, hcancels⟩ := hpause.exists_run (passes ++ [(x, paths)]) lost
      have hpaused := hanswers.run actions
      rw [hrun] at hpaused
      have hfinish : finishPass (fuel + 1) s (c, .suspended x paths) =
          finishPass fuel (({ s with collector := c } : Service ScriptedSink).pause x.delay)
            ((({ s with collector := c } : Service ScriptedSink).pause x.delay).collector.resumePass
              (({ s with collector := c } : Service ScriptedSink).pause x.delay).site x paths) :=
        rfl
      rw [hfinish]
      generalize
        ({ s with collector := c } : Service ScriptedSink).pause x.delay = s₁ at hrun hpaused ⊢
      -- then the pass goes on with it
      have hresumed := hpaused.after (.resumePass passes.length)
      rw [after_resumePass_last] at hresumed
      have hmem : x ∈ Scene.suspensions ⟨s₁, passes ++ [(x, paths)], lost₁⟩ :=
        List.mem_append_right _ (List.mem_map_of_mem (List.mem_append_right _ List.mem_cons_self))
      have hkept : s₁.collector.Kept x.batch.length (s₁.collector.resumePass s₁.site x paths).1
          (s₁.collector.resumePass s₁.site x paths).2.suspension? :=
        hpaused.sound.kept_resumePass (hpaused.held x hmem).2 paths
      have hless : (s₁.collector.resumePass s₁.site x paths).2.left?.isSome →
          (s₁.collector.resumePass s₁.site x paths).1.sink.script.length < fuel := by
        intro hleft
        have hscript := hkept.script
        have hle := hpaused.script_le
        have hmore := hfuel rfl
        rw [length_suspension? hleft] at hscript
        simp only at hle hmore
        omega
      obtain ⟨actions', lost₂, hrun', hcancels'⟩ := ih hresumed hless
      refine ⟨actions ++ .resumePass passes.length :: actions', lost₂, ?_, ?_⟩
      · have hpending : (PassResult.suspended x paths).left?.toList = [(x, paths)] := rfl
        rw [hpending, Scene.run_append, hrun, Scene.run, List.foldl_cons, after_resumePass_last]
        exact hrun'
      · rw [List.forall_mem_append, List.forall_mem_cons]
        exact ⟨hcancels, fun h => absurd h Bool.false_ne_true, hcancels'⟩

/-- A pass in the foreground, from its beginning to its end. -/
lemma exists_run_tick (h : Scene.Balanced capacity answers ⟨s, passes, lost⟩) :
    ∃ actions lost', Scene.run ⟨s, passes, lost⟩ actions = ⟨s.tick.1, passes, lost'⟩ ∧
      ∀ action ∈ actions, action.isCancel → cancels := by
  rw [tick]
  by_cases hactive : s.isActive
  · have hbegin : Scene.after ⟨s, passes, lost⟩ .beginPass =
        ⟨{ s with collector := s.makePass.1 }, passes ++ s.makePass.2.left?.toList, lost⟩ :=
      if_pos hactive
    have hbegun := h.after .beginPass
    rw [hbegin] at hbegun
    have hfuel : s.makePass.2.left?.isSome →
        s.makePass.1.sink.script.length < Sink.lateAnswers s.collector.sink + 1 := by
      intro hleft
      have hscript := (kept_makePass h.sound).script
      have hanswers : Sink.lateAnswers s.collector.sink = s.collector.sink.script.length := rfl
      rw [length_suspension? hleft] at hscript
      simp only at hscript
      omega
    obtain ⟨actions, lost', hrun, hcancels⟩ :=
      exists_run_finishPass cancels hbegun hfuel
    rw [if_pos hactive]
    refine ⟨.beginPass :: actions, lost', ?_, ?_⟩
    · rw [Scene.run, List.foldl_cons, hbegin]
      exact hrun
    · rw [List.forall_mem_cons]
      exact ⟨fun h => absurd h Bool.false_ne_true, hcancels⟩
  · rw [if_neg hactive]
    exact ⟨[], lost, rfl, List.forall_mem_nil _⟩

end Service

/-! ## Operations -/

/-- What can be asked of the service, and what can be changed around it. -/
inductive Operation where
  | start
  | stop (timeout : Option Rat)
  | advance (seconds : Rat)
  /-- Everything is done that is due now. -/
  | settle
  | tick
  | cancel
  | sleep (wait : Option Rat)
  | setSettings (search : SearchSettings) (ingestion : IngestionSettings)
  | setFiles (files : Files)

namespace Operation

/-- The service after an operation. -/
def apply {σ : Type} [Sink σ] (s : Service σ) : Operation → Service σ
  | .start => s.start
  | .stop timeout => s.stop timeout
  | .advance seconds => s.advance seconds
  | .settle => s.settle
  | .tick => s.tick.1
  | .cancel => s.cancel
  | .sleep wait => (s.sleep wait).2
  | .setSettings search ingestion => { s with search := search, ingestion := ingestion }
  | .setFiles files => { s with collector := { s.collector with files := files } }

/-- The operation can cancel something. -/
def cancels : Operation → Bool
  | .cancel => true
  | .stop timeout => timeout.isSome
  | _ => false

variable {s : Service ScriptedSink} {capacity answers : Nat}
  {passes : List (Suspension × List Text)} {lost : Nat}

lemma exists_run (h : Scene.Balanced capacity answers ⟨s, passes, lost⟩) (operation : Operation) :
    ∃ actions lost', Scene.run ⟨s, passes, lost⟩ actions = ⟨operation.apply s, passes, lost'⟩ ∧
      ∀ action ∈ actions, action.isCancel → operation.cancels := by
  cases operation with
  | start => exact s.comes_start.exists_run passes lost
  | stop timeout => exact (s.comes_stop timeout).exists_run passes lost
  | advance seconds => exact (s.comes_waitUntil _ _).exists_run passes lost
  | settle => exact (s.comes_runTo _ _).exists_run passes lost
  | tick => exact Service.exists_run_tick h
  | cancel => exact s.comes_cancel.exists_run passes lost
  | sleep wait => exact (s.comes_sleep wait).exists_run passes lost
  | setSettings search ingestion =>
    have hcomes : Service.Comes false s { s with search := search, ingestion := ingestion } :=
      .of_after (.setSettings search ingestion) rfl fun _ _ => rfl
    exact hcomes.exists_run passes lost
  | setFiles files =>
    have hcomes : Service.Comes false s
        { s with collector := { s.collector with files := files } } :=
      .of_after (.setFiles files) rfl fun _ _ => rfl
    exact hcomes.exists_run passes lost

lemma exists_run_foldl (h : Scene.Balanced capacity answers ⟨s, passes, lost⟩)
    (operations : List Operation) :
    ∃ actions lost',
      Scene.run ⟨s, passes, lost⟩ actions = ⟨operations.foldl apply s, passes, lost'⟩ ∧
        ∀ action ∈ actions, action.isCancel → ∃ operation ∈ operations, operation.cancels := by
  induction operations generalizing s lost with
  | nil => exact ⟨[], lost, rfl, List.forall_mem_nil _⟩
  | cons operation operations ih =>
    obtain ⟨actions, lost₁, hrun, hcancels⟩ := exists_run h operation
    have hbalanced := h.run actions
    rw [hrun] at hbalanced
    obtain ⟨actions', lost₂, hrun', hcancels'⟩ := ih hbalanced
    refine ⟨actions ++ actions', lost₂, by rw [Scene.run_append, hrun, hrun', List.foldl_cons],
      List.forall_mem_append.2 ⟨fun action haction h => ?_, fun action haction h => ?_⟩⟩
    · exact ⟨operation, List.mem_cons_self, hcancels action haction h⟩
    · obtain ⟨later, hlater, hcancel⟩ := hcancels' action haction h
      exact ⟨later, List.mem_cons_of_mem _ hlater, hcancel⟩

end Operation

/-! ## The books -/

lemma Service.balanced_new {site : Site} {files : Files} {script : List Delivery}
    {search : SearchSettings} {ingestion : IngestionSettings} {s : Service ScriptedSink}
    (hnew : Service.new? site files ⟨script, [], []⟩ search ingestion = some s)
    (hscript : ∀ d ∈ script, d.outcome.IsBooked) :
    1 ≤ ingestion.bulkSize ∧
      Scene.Balanced ingestion.bulkSize.toNat script.length ⟨s, [], 0⟩ := by
  obtain ⟨outbox, houtbox, rfl⟩ := Option.map_eq_some_iff.1 hnew
  obtain ⟨hsize, rfl⟩ := Outbox.new?_eq_some houtbox
  have hroom : 0 < ingestion.bulkSize.toNat := by omega
  exact ⟨hsize, ⟨hroom, hscript⟩, rfl, Nat.le_refl _, List.forall_mem_nil _, rfl⟩

/-- A pass in the foreground that finds one file, up to where it waits. -/
lemma Scene.run_beginPass {s : Service ScriptedSink} {configured path : Text} {number : Nat}
    (hactive : s.isActive) (hpaths : s.ingestion.paths = [configured])
    (hkey : s.site.key configured = path) (hnul : Char.ofNat 0 ∉ path)
    (hfind : s.collector.files.find path = .file number) :
    let r := Collector.proceed path [] (fun c => (c, .finished))
      (s.collector.readFile s.site path number)
    Scene.run ⟨s, [], 0⟩ [.beginPass] = ⟨{ s with collector := r.1 }, r.2.left?.toList, 0⟩ := by
  intro r
  have hpass : s.makePass = r := Service.makePass_eq hactive hpaths hkey hnul hfind
  rw [← hpass]
  exact if_pos hactive

/-- **No parsed line disappears from the books.**  Take a new service and any answers of the sink
that can be booked.

* After any actions, the lines that were parsed are the documents that were shipped, those that were
  dropped, those that wait, those in requests under way and those lost to cancellations.
* The documents lost become more only when something that waits for an outcome is cancelled, and
  then by its batch, which is of no more than the bulk size.
* Any operations on the service, in any order, are such actions, and leave no pass in the foreground
  under way.  There is a cancellation among them only if one was asked for, by itself or by a stop
  with a time-out. -/
theorem books_of_run {site : Site} {files : Files} {script : List Delivery}
    {search : SearchSettings} {ingestion : IngestionSettings} {s : Service ScriptedSink}
    (hnew : Service.new? site files ⟨script, [], []⟩ search ingestion = some s)
    (hscript : ∀ d ∈ script, d.outcome.IsBooked) :
    (∀ actions, let scene := Scene.run ⟨s, [], 0⟩ actions
      let c := scene.service.collector
      c.counts.parsed = c.outbox.shipped + c.outbox.dropped + c.outbox.pending.length +
          scene.inFlight + scene.lost ∧
        ∀ action, (scene.after action).lost = scene.lost + inFlight (scene.cancelled? action) ∧
          inFlight (scene.cancelled? action) ≤ ingestion.bulkSize) ∧
    ∀ operations : List Operation, ∃ actions lost,
      Scene.run ⟨s, [], 0⟩ actions = ⟨operations.foldl Operation.apply s, [], lost⟩ ∧
        ∀ action ∈ actions, action.isCancel → ∃ operation ∈ operations, operation.cancels := by
  obtain ⟨hsize, hbalanced⟩ := Service.balanced_new hnew hscript
  refine ⟨fun actions => ?_, fun operations => Operation.exists_run_foldl hbalanced operations⟩
  have hrun := hbalanced.run actions
  intro scene c
  constructor
  · have hunbooked : c.unbooked = scene.inFlight + scene.lost := hrun.unbooked
    rw [Collector.unbooked] at hunbooked
    omega
  · intro action
    have hbatch : inFlight (scene.cancelled? action) ≤ ingestion.bulkSize.toNat :=
      hrun.inFlight_cancelled?_le action
    exact ⟨scene.lost_after action, by omega⟩

/-- A pass is cancelled while its request is under way: the document in it is the one that is
lost. -/
theorem books_of_run_of_cancellation :
    let site : Site := ⟨⟨0⟩, "/", "/", ⟨0, by decide⟩⟩
    let files : Files := ⟨[([['a']], .file 0)], [(0, [120, 10])], []⟩
    let search : SearchSettings :=
      ⟨[], none, none, "logs", true, true, true, .zero false, .zero false⟩
    let ingestion : IngestionSettings := ⟨true, ["/a"], 1, .zero false, .zero false⟩
    let script : List Delivery := [⟨.unavailable [], 3⟩]
    let s : Service ScriptedSink := ⟨site, search, ingestion,
      .new files ⟨"logs", 1, [], 0, 0, 0, 0⟩ ⟨script, [], []⟩, 0, 0, none, none, 0, 0⟩
    let scene := Scene.run ⟨s, [], 0⟩ [.beginPass]
    let c := scene.service.collector
    Service.new? site files ⟨script, [], []⟩ search ingestion = some s ∧
      (∀ d ∈ script, d.outcome.IsBooked) ∧
      c.counts.parsed = c.outbox.shipped + c.outbox.dropped + c.outbox.pending.length + 1 ∧
      scene.inFlight = 1 ∧ scene.lost = 0 ∧ (scene.after (.cancelPass 0)).lost = 1 := by
  intro site files search ingestion script s scene c
  have hnew : Service.new? site files ⟨script, [], []⟩ search ingestion = some s := rfl
  have hscript : ∀ d ∈ script, d.outcome.IsBooked := fun d hd => by
    rw [List.mem_singleton.1 hd]
    trivial
  have hfind : files.find "/a" = .file 0 :=
    Files.find_eq_file ['a'] rfl (by decide) (by decide) (by decide)
  have hscene : scene = _ := Scene.run_beginPass rfl rfl (by decide +kernel) (by decide) hfind
  have hflight : scene.inFlight = 1 ∧ scene.lost = 0 ∧
      inFlight (scene.cancelled? (.cancelPass 0)) = 1 := by
    rw [hscene]
    exact ⟨rfl, rfl, rfl⟩
  obtain ⟨hbooks, -⟩ := books_of_run hnew hscript
  have hparsed : c.counts.parsed = c.outbox.shipped + c.outbox.dropped + c.outbox.pending.length +
      scene.inFlight + scene.lost := (hbooks [.beginPass]).1
  have hlost : (scene.after (.cancelPass 0)).lost =
      scene.lost + inFlight (scene.cancelled? (.cancelPass 0)) :=
    ((hbooks [.beginPass]).2 (.cancelPass 0)).1
  exact ⟨hnew, hscript, by omega, hflight.1, hflight.2.1, by omega⟩

/-- A reply with text that is not UTF-8 ends the pass after its batch was taken out of the outbox.
The line was parsed, and its document is neither shipped nor dropped, nor is it anywhere else. -/
theorem document_disappears :
    let site : Site := ⟨⟨0⟩, "/", "/", ⟨0, by decide⟩⟩
    let files : Files := ⟨[([['a']], .file 0)], [(0, [120, 10])], []⟩
    let search : SearchSettings :=
      ⟨[], none, none, "logs", true, true, true, .zero false, .zero false⟩
    let ingestion : IngestionSettings := ⟨true, ["/a"], 1, .zero false, .zero false⟩
    let body : Bytes := [123, 34, 97, 34, 58, 34, 255, 34, 125]
    let script : List Delivery := [⟨Response.outcome Json.decoder [] (.body body), 0⟩]
    let s : Service ScriptedSink := ⟨site, search, ingestion,
      .new files ⟨"logs", 1, [], 0, 0, 0, 0⟩ ⟨script, [], []⟩, 0, 0, none, none, 0, 0⟩
    let scene := Scene.run ⟨s, [], 0⟩ [.beginPass]
    let c := scene.service.collector
    Service.new? site files ⟨script, [], []⟩ search ingestion = some s ∧ c.counts.parsed = 1 ∧
      c.outbox.shipped = 0 ∧ c.outbox.dropped = 0 ∧ c.outbox.pending = [] ∧ scene.inFlight = 0 ∧
      scene.lost = 0 := by
  intro site files search ingestion body script s scene
  have hfind : files.find "/a" = .file 0 :=
    Files.find_eq_file ['a'] rfl (by decide) (by decide) (by decide)
  have hscene : scene = _ := Scene.run_beginPass rfl rfl (by decide +kernel) (by decide) hfind
  rw [hscene]
  exact ⟨rfl, rfl, rfl, rfl, rfl, rfl, rfl⟩

end LogSearch.Ingestion
