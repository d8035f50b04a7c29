import LogSearch.Proofs.Ingestion.Books
import LogSearch.Proofs.Ingestion.Timeline

/-!
# One pass at a time

Whatever is asked of the service, what its background does lies on a timeline (`Operation.leads`),
as long as the settings stay as they are and no pass is made in the foreground.  A wait lies on one
because its fuel is enough, so that nothing that falls due is left out, and a stop because nothing
is left of a pass when it is over.

`one_pass_at_a_time` is the statement about the background from its first start on.  A stop comes to
its end in one of the ways of `Service.Stopped`, and there is no background after it.  A stop may
come right after a start, when the background has not begun (`Service.IsNext`).
-/

namespace LogSearch.Ingestion

variable {s s' s'' : Service ScriptedSink} {passes : List (Suspension × List Text)} {lost : Nat}
  {trace : List (Rat × Event)} {timeout : Option Rat}

/-! ## What is asked of the service lies on a timeline -/

namespace Service

/-- The service comes from one state to another on a timeline, and the passes in the foreground stay
where they are. -/
def Leads (s s' : Service ScriptedSink) : Prop :=
  ∀ passes lost, ∃ trace lost', Timeline ⟨s, passes, lost⟩ trace ⟨s', passes, lost'⟩

lemma Leads.refl (s : Service ScriptedSink) : Leads s s := fun _ lost => ⟨[], lost, .refl⟩

lemma Leads.trans (h : Leads s s') (h' : Leads s' s'') : Leads s s'' := by
  intro passes lost
  obtain ⟨trace, lost₁, htimeline⟩ := h passes lost
  obtain ⟨trace', lost₂, htimeline'⟩ := h' passes lost₁
  exact ⟨trace ++ trace', lost₂, htimeline.trans htimeline'⟩

lemma Leads.of_after (action : Action) (horder : s.InOrder action)
    (h : ∀ passes lost, ∃ lost', Scene.after ⟨s, passes, lost⟩ action = ⟨s', passes, lost'⟩) :
    Leads s s' := by
  intro passes lost
  obtain ⟨lost', hafter⟩ := h passes lost
  exact ⟨_, lost', hafter ▸ Timeline.single (x := ⟨s, passes, lost⟩) horder rfl⟩

lemma leads_start (s : Service ScriptedSink) : Leads s s.start :=
  .of_after .start trivial fun _ lost => ⟨lost, rfl⟩

lemma leads_begun (s : Service ScriptedSink) : Leads s s.begun :=
  .of_after .settleIn trivial fun _ lost => ⟨lost, rfl⟩

lemma leads_cancel (s : Service ScriptedSink) : Leads s s.cancel :=
  .of_after .cancel trivial fun _ _ => ⟨_, rfl⟩

lemma leads_setFiles (s : Service ScriptedSink) (files : Files) :
    Leads s { s with collector := { s.collector with files := files } } :=
  .of_after (.setFiles files) trivial fun _ lost => ⟨lost, rfl⟩

lemma leads_setTime {clock : Rat} (timersSet : Nat) (hclock : s.clock ≤ clock)
    (hdue : ∀ d ∈ s.due?, clock ≤ d) :
    Leads s { s with clock := clock, timersSet := timersSet } :=
  .of_after (.setTime clock timersSet) ⟨hclock, hdue⟩ fun _ lost => ⟨lost, rfl⟩

lemma leads_goesOn (h : Relation.ReflTransGen GoesOn s s') : Leads s s' := by
  induction h with
  | refl => exact .refl s
  | tail _ hlast ih =>
    obtain ⟨hbegun, hdue, rfl⟩ := hlast
    exact ih.trans (.of_after .wake ⟨hbegun, hdue⟩ fun _ lost => ⟨lost, rfl⟩)

/-- A wait.  Nothing is missed, because all that falls due has been done when the time is set. -/
lemma InTime.leads_waitUntil (h : s.InTime) (moment : Rat) (number : Option Nat) :
    Leads s (s.waitUntil moment number) := by
  obtain ⟨hruns, -, hdone⟩ := h.runTo moment number
  refine (s.leads_begun.trans (leads_goesOn hruns)).trans (leads_setTime _ ?_ fun d hd => ?_)
  · split
    next hless => exact le_of_lt hless
    next => exact le_refl _
  · split
    · exact hdone d hd
    · exact (h.begun.goesOn hruns).clock_le d hd

lemma InTime.leads_pause (h : s.InTime) (seconds : Rat) : Leads s (s.pause seconds) := by
  have hcounted : InTime { s with timersSet := s.timersSet + 1 } := h.of_same rfl rfl rfl id
  exact (leads_setTime (s.timersSet + 1) (le_refl s.clock) h.clock_le).trans
    (hcounted.leads_waitUntil _ _)

lemma InTime.leads_sleep (h : s.InTime) (wait : Option Rat) : Leads s (s.sleep wait).2 := by
  rw [sleep]
  split
  · exact .refl s
  · split
    · exact s.leads_begun
    · split
      · exact .refl s
      · exact h.leads_pause _

/-! ## Stops -/

/-- The background has not begun, and a pass is the first thing that it does. -/
def IsNext (s : Service ScriptedSink) : Prop := (∃ t, s.task = some (.created t)) ∧ s.HasBegun

/-- What is seen of the pass that a stop waits for, before its end: its beginning, unless it is in
progress. -/
def beginning (s : Service ScriptedSink) : List (Rat × Event) :=
  if s.suspension?.isSome then [] else [(s.clock, .began)]

lemma IsNext.isRunning (h : s.IsNext) : s.isRunning := by
  obtain ⟨⟨t, htask⟩, -⟩ := h
  exact isRunning_eq_true htask

/-- What is seen when the background goes on for the first time after a stop was requested, with a
pass in progress or a pass that is the first thing it does. -/
lemma InTime.timeline_wake (h : s.InTime) (hpass : s.suspension?.isSome ∨ s.IsNext)
    (hbegun : s.HasBegun) (hdue : s.due?.isSome) (passes : List (Suspension × List Text))
    (lost : Nat) : ∃ task, s.task = some task ∧
      Timeline ⟨s, passes, lost⟩ (s.beginning ++ (((s.passPart task).2.events ++
        if s.wake.isRunning then [] else [Event.left]).map fun e => (s.wake.clock, e)))
        ⟨s.wake, passes, lost⟩ := by
  have hafter : Timeline ⟨s, passes, lost⟩ _ (Scene.after ⟨s, passes, lost⟩ .wake) :=
    .single (t := s.wake.clock) ⟨hbegun, hdue⟩ rfl
  obtain ⟨d, hd⟩ := Option.isSome_iff_exists.1 hdue
  obtain ⟨task, htask, htimer, hwoken⟩ := h.exists_woken hd
  refine ⟨task, htask, ?_⟩
  simp only [Scene.after, events, htask, List.append_assoc] at hafter
  rcases hpass with hpass | ⟨⟨t, hcreated⟩, -⟩
  · have hinPass : task.suspension?.isSome := by
      rw [suspension?, htask] at hpass
      exact hpass
    rw [if_pos hinPass, List.nil_append] at hafter
    rwa [beginning, if_pos hpass, List.nil_append]
  · obtain rfl := Option.some.inj (htask.symm.trans hcreated)
    have hnow : s.wake.clock = s.clock :=
      hwoken.clock_eq.trans (Option.some.inj (htimer.symm.trans (h.created t hcreated)))
    have hbeginning : s.beginning = [(s.wake.clock, .began)] := by
      rw [beginning, suspension?, hcreated, hnow]
      rfl
    rw [hbeginning]
    exact hafter

/-- The background goes on after a stop was requested, with a pass in progress or a pass that is the
first thing it does: nothing more is seen of it until the pass is at its end, and then the
background is at its end too. -/
lemma InTime.timeline_stopping (h : s.InTime) (hstop : s.stopRequested = some true)
    (hpass : s.suspension?.isSome ∨ s.IsNext) (h' : Relation.ReflTransGen GoesOn s s')
    (passes : List (Suspension × List Text)) (lost : Nat) :
    s'.stopRequested = some true ∧
      (s' = s ∨
        (s'.suspension?.isSome ∧ Timeline ⟨s, passes, lost⟩ s.beginning ⟨s', passes, lost⟩) ∨
        (s'.task = none ∧ ∃ failed, Timeline ⟨s, passes, lost⟩
          (s.beginning ++ [(s'.clock, .ended failed), (s'.clock, .left)]) ⟨s', passes, lost⟩)) := by
  induction h' with
  | refl => exact ⟨hstop, .inl rfl⟩
  | @tail s₁ s₂ hbefore hlast ih =>
    obtain ⟨hbegun, hdue, rfl⟩ := hlast
    have hin := h.goesOn hbefore
    obtain ⟨hstill, hcases⟩ := ih
    -- the pass is still in progress, or is begun: it waits, or it ends, and no rest comes after it
    have hgoes : s₁.task = none ∨ ∃ task, s₁.task = some task ∧
        Timeline ⟨s, passes, lost⟩ (s.beginning ++ (((s₁.passPart task).2.events ++
          if s₁.wake.isRunning then [] else [Event.left]).map fun e => (s₁.wake.clock, e)))
          ⟨s₁.wake, passes, lost⟩ := by
      rcases hcases with rfl | ⟨hpassing, htimeline⟩ | ⟨hidle, -⟩
      · exact .inr (h.timeline_wake hpass hbegun hdue passes lost)
      · obtain ⟨task, htask, hwake⟩ := hin.timeline_wake (.inl hpassing) hbegun hdue passes lost
        rw [beginning, if_pos hpassing, List.nil_append] at hwake
        exact .inr ⟨task, htask, htimeline.trans hwake⟩
      · exact .inl hidle
    rcases hgoes with hidle | ⟨task, htask, hafter⟩
    · rw [due?_eq_none hidle] at hdue
      contradiction
    · obtain ⟨d, hd⟩ := Option.isSome_iff_exists.1 hdue
      obtain ⟨task', htask', -, hwoken⟩ := hin.exists_woken hd
      obtain rfl := Option.some.inj (htask'.symm.trans htask)
      generalize s₁.wake = s₂ at hwoken hafter
      cases hwoken with
      | waits hpart =>
        rw [hpart] at hafter
        refine ⟨hstill, .inr (.inl ⟨rfl, ?_⟩)⟩
        simpa [PassResult.events, isRunning] using hafter
      | rests _ _ _ hgoes => exact absurd hstill hgoes
      | @ends c c' result hpart hend =>
        rw [hpart, PassResult.events_eq hend] at hafter
        exact ⟨hstill, .inr (.inr ⟨rfl, result.fault?.isSome, hafter⟩)⟩

/-- What is seen of a stop that was requested at some state, and the documents that are lost by its
end. -/
inductive Stopped (s : Service ScriptedSink) (timeout : Option Rat) (lost : Nat) :
    List (Rat × Event) → Nat → Prop
  /-- There was nothing to stop. -/
  | idle (nothing : s.task = none) : Stopped s timeout lost [] lost
  /-- The background came to its end at once, without a pass: it was in a delay, or it had not begun
  and would have had one, or it had not begun and there was no time for it to. -/
  | resting (running : s.isRunning) (noPass : s.suspension? = none)
      (noTime : s.IsNext → ∃ w ∈ timeout, w ≤ 0) :
      Stopped s timeout lost [(s.clock, .left)] lost
  /-- The pass in progress, or the one that was the first thing to do, came to its end within the
  time-out, and nothing was lost. -/
  | graceful {t : Rat} {failed : Bool} (pass : s.suspension?.isSome ∨ s.IsNext)
      (time : s.clock ≤ t) (inTime : ∀ w ∈ timeout, t ≤ s.clock + max w 0) :
      Stopped s timeout lost (s.beginning ++ [(t, .ended failed), (t, .left)]) lost
  /-- All of the time-out went by in the middle of the pass. -/
  | timedOut {w : Rat} {lost' : Nat} (pass : s.suspension?.isSome ∨ s.IsNext ∧ 0 < w)
      (given : timeout = some w) :
      Stopped s timeout lost
        (s.beginning ++ [(s.clock + max w 0, .cancelled), (s.clock + max w 0, .left)]) lost'

lemma Stopped.of_requested {requested : Option Bool} {lost' : Nat}
    (h : Stopped { s with stopRequested := requested } timeout lost trace lost') :
    Stopped s timeout lost trace lost' := by
  cases h with
  | idle hnothing => exact .idle hnothing
  | resting hrunning hpass hnext => exact .resting hrunning hpass hnext
  | graceful hpass hfrom htime => exact .graceful hpass hfrom htime
  | timedOut hpass hgiven => exact .timedOut hpass hgiven

lemma timeline_forceStop (hrunning : s.isRunning)
    (passes : List (Suspension × List Text)) (lost : Nat) :
    s.forceStop.task = none ∧ ∃ lost', (s.suspension? = none → lost' = lost) ∧
      Timeline ⟨s, passes, lost⟩
        ((if s.suspension?.isSome then [(s.clock, .cancelled)] else []) ++ [(s.clock, .left)])
        ⟨s.forceStop, passes, lost'⟩ := by
  obtain ⟨c, -, hcancel⟩ := s.exists_cancel_eq
  have hevents : (s.events .cancel).map (fun e => (s.clock, e)) =
      (if s.suspension?.isSome then [(s.clock, .cancelled)] else []) ++ [(s.clock, .left)] := by
    simp only [events, if_pos hrunning, List.map_append]
    cases s.suspension? <;> rfl
  have hcancelled : Timeline ⟨s, passes, lost⟩ _ (Scene.after ⟨s, passes, lost⟩ .cancel) :=
    .single trivial (t := s.clock) (by rw [Scene.after, hcancel])
  rw [hevents] at hcancelled
  refine ⟨?_, lost + inFlight s.suspension?, fun hnone => ?_,
    hcancelled.unseen (.report .warning _) trivial rfl⟩
  · rw [forceStop, hcancel]
    rfl
  · rw [hnone]
    rfl

lemma timeline_endDelay (hstop : s.stopRequested = some true) (hdelay : s.isDelaying)
    (timeout : Option Rat) (passes : List (Suspension × List Text)) (lost : Nat) :
    Timeline ⟨s, passes, lost⟩ [(s.clock, .left)] ⟨{ s with task := none }, passes, lost⟩ ∧
      Stopped s timeout lost [(s.clock, .left)] lost := by
  have hafter : Scene.after ⟨s, passes, lost⟩ .endDelay =
      ⟨{ s with task := none }, passes, lost⟩ := if_pos hdelay
  have htimeline : Timeline ⟨s, passes, lost⟩ ((s.events .endDelay).map fun e => (s.clock, e))
      (Scene.after ⟨s, passes, lost⟩ .endDelay) := .single hstop (by rw [hafter])
  have hevents : s.events .endDelay = [.left] := by simp only [events, if_pos hdelay]
  rw [hafter, hevents] at htimeline
  refine ⟨htimeline,
    .resting (isRunning_of_isDelaying hdelay) (suspension?_of_isDelaying hdelay) ?_⟩
  rintro ⟨⟨t, hcreated⟩, -⟩
  rw [isDelaying, hcreated] at hdelay
  contradiction

/-- What has not begun when a stop is requested, and has a delay before its first pass, comes to its
end when it begins. -/
lemma timeline_leaves {t : Timer} (hstop : s.stopRequested = some true)
    (hcreated : s.task = some (.created t))
    (hlength : isNoWait (waitOf s.ingestion.initialDelay) = false)
    (timeout : Option Rat) (passes : List (Suspension × List Text)) (lost : Nat) :
    s.begun.task = none ∧
      Timeline ⟨s, passes, lost⟩ [(s.clock, .left)] ⟨s.begun, passes, lost⟩ ∧
      Stopped s timeout lost [(s.clock, .left)] lost := by
  have hrunning : s.isRunning := isRunning_eq_true hcreated
  have hbegun : s.begun = { s with task := none } := by
    rw [begun, hcreated]
    simp only [hlength, Bool.false_eq_true, if_false, if_pos hstop]
  have hidle : s.begun.isRunning = false := by
    rw [hbegun]
    rfl
  have hevents : s.events .settleIn = [.left] := by
    simp only [events, hrunning, hidle, Bool.not_false, Bool.and_self, if_true]
  have htimeline : Timeline ⟨s, passes, lost⟩ ((s.events .settleIn).map fun e => (s.clock, e))
      (Scene.after ⟨s, passes, lost⟩ .settleIn) :=
    .single trivial (begun_spec s).clock_eq
  rw [hevents] at htimeline
  refine ⟨by rw [hbegun], htimeline, .resting hrunning (by rw [suspension?, hcreated]; rfl) ?_⟩
  rintro ⟨-, hnext⟩
  have hwait := hnext t hcreated
  rw [hlength] at hwait
  contradiction

lemma InTime.hasBegun_or {task : Task} (h : s.InTime) (htask : s.task = some task)
    (hwaited : task.isDelay = false) :
    (s.suspension?.isSome ∨ s.IsNext) ∨
      ∃ t, s.task = some (.created t) ∧ isNoWait (waitOf s.ingestion.initialDelay) = false := by
  cases task with
  | created t =>
    cases hwait : isNoWait (waitOf s.ingestion.initialDelay) with
    | true => exact .inl (.inr ⟨⟨t, htask⟩, fun _ _ => hwait⟩)
    | false => exact .inr ⟨t, htask, rfl⟩
  | delaying t => contradiction
  | passing t x paths =>
    rw [suspension?, htask]
    exact .inl (.inl rfl)
  | resting t => contradiction
  | turning t => exact absurd htask (h.rests t)

/-- A pass is in progress, or is the first thing to do. -/
lemma InTime.pass (h : s.InTime) (hpass : s.suspension?.isSome ∨ s.IsNext) :
    s.HasBegun ∧ s.due?.isSome ∧ s.isRunning := by
  rcases hpass with hpass | hnext
  · refine ⟨hasBegun_of_ne fun t ht => ?_, h.passing hpass, isRunning_of_suspension? hpass⟩
    rw [suspension?, ht] at hpass
    contradiction
  · obtain ⟨t, htask⟩ := hnext.1
    refine ⟨hnext.2, ?_, hnext.isRunning⟩
    rw [due?, htask]
    exact Option.isSome_iff_exists.2 ⟨_, h.created t htask⟩

/-- A pass is waited for without a time-out. -/
lemma InTime.timeline_runOut (h : s.InTime) (hstop : s.stopRequested = some true)
    (hpass : s.suspension?.isSome ∨ s.IsNext) (passes : List (Suspension × List Text))
    (lost : Nat) :
    let s' := Service.runOut (Sink.lateAnswers s.collector.sink + 1) s
    s'.task = none ∧ ∃ trace, Timeline ⟨s, passes, lost⟩ trace ⟨s', passes, lost⟩ ∧
      Stopped s none lost trace lost := by
  obtain ⟨hbegun, hdue, hrunning⟩ := h.pass hpass
  obtain ⟨hruns, hidle⟩ := h.runOut hbegun hstop hdue (Nat.lt_succ_self _)
  obtain ⟨-, hsame | ⟨hpassing, -⟩ | ⟨-, failed, htimeline⟩⟩ :=
    h.timeline_stopping hstop hpass hruns passes lost
  · rw [hsame] at hidle
    rw [isRunning_eq_false hidle] at hrunning
    contradiction
  · simp [suspension?, hidle] at hpassing
  · exact ⟨hidle, _, htimeline, .graceful hpass (h.clock_mono hruns) fun w hw => by simp at hw⟩

/-- A pass is waited for up to the end of the time-out, and then cancelled. -/
lemma InTime.timeline_runTo (h : s.InTime) (hstop : s.stopRequested = some true)
    (hpass : s.suspension?.isSome ∨ s.IsNext) {w : Rat} (hw : 0 < w)
    (passes : List (Suspension × List Text)) (lost : Nat) :
    let s₁ := s.runTo (s.clock + w) (some s.timersSet)
    let s' := if s₁.isRunning then forceStop { s₁ with clock := s.clock + w } else s₁
    s'.task = none ∧ ∃ trace lost', Timeline ⟨s, passes, lost⟩ trace ⟨s', passes, lost'⟩ ∧
      Stopped s (some w) lost trace lost' := by
  have hlong : max w 0 = w := max_eq_left hw.le
  have hmoment : max s.clock (s.clock + w) = s.clock + w := max_eq_right (by linarith)
  obtain ⟨hbegun, hdue, -⟩ := h.pass hpass
  obtain ⟨hruns, hclock, hdone⟩ := h.runTo (s.clock + w) (some s.timersSet)
  rw [hbegun.begun_eq] at hruns
  rw [hmoment] at hclock
  intro s₁ s'
  have hcases : (s₁.suspension?.isSome ∧
        Timeline ⟨s, passes, lost⟩ s.beginning ⟨s₁, passes, lost⟩) ∨
      (s₁.task = none ∧ ∃ failed, Timeline ⟨s, passes, lost⟩
        (s.beginning ++ [(s₁.clock, .ended failed), (s₁.clock, .left)]) ⟨s₁, passes, lost⟩) := by
    obtain ⟨-, hsame | hcases⟩ := h.timeline_stopping hstop hpass hruns passes lost
    · have hsame : s₁ = s := hsame
      rcases hpass with hpass | ⟨⟨t, hcreated⟩, -⟩
      · refine .inl ?_
        rw [hsame, beginning, if_pos hpass]
        exact ⟨hpass, .refl⟩
      · -- what can begin at once has begun when some time has gone by
        have hnow : s₁.due? = some s.clock := by
          rw [hsame, due?, hcreated]
          exact h.created t hcreated
        have hlate := hdone _ hnow
        linarith
    · exact hcases
  rcases hcases with ⟨hpassing, htimeline⟩ | ⟨hidle, failed, htimeline⟩
  · -- nothing that falls due is missed when the time is set to the end of the time-out
    have hset := htimeline.unseen (.setTime (s.clock + w) s₁.timersSet) ⟨hclock, hdone⟩ rfl
    obtain ⟨hidle, lost', -, hforced⟩ :=
      timeline_forceStop (s := { s₁ with clock := s.clock + w })
        (isRunning_of_suspension? hpassing) passes lost
    have hcancelled :
        ({ s₁ with clock := s.clock + w } : Service ScriptedSink).suspension?.isSome :=
      hpassing
    rw [if_pos hcancelled] at hforced
    have hs' : s' = forceStop { s₁ with clock := s.clock + w } :=
      if_pos (isRunning_of_suspension? hpassing)
    have hstopped : Stopped s (some w) lost _ lost' :=
      .timedOut (hpass.imp_right fun hnext => ⟨hnext, hw⟩) rfl
    rw [hlong] at hstopped
    rw [hs']
    exact ⟨hidle, _, lost', hset.trans hforced, hstopped⟩
  · have hs' : s' = s₁ := if_neg (by rw [isRunning_eq_false hidle]; exact Bool.false_ne_true)
    rw [hs']
    refine ⟨hidle, _, lost, htimeline, .graceful hpass (h.clock_mono hruns) fun w' hw' => ?_⟩
    obtain rfl := Option.some.inj hw'
    rw [hlong]
    exact hclock

/-- What is not in a delay is waited for, and at the end of that no background is left. -/
lemma InTime.timeline_awaitEnd {task : Task} (h : s.InTime) (hstop : s.stopRequested = some true)
    (htask : s.task = some task) (hwaited : task.isDelay = false)
    (timeout : Option Rat) (passes : List (Suspension × List Text)) (lost : Nat) :
    (s.awaitEnd timeout).task = none ∧ ∃ trace lost',
      Timeline ⟨s, passes, lost⟩ trace ⟨s.awaitEnd timeout, passes, lost'⟩ ∧
        Stopped s timeout lost trace lost' := by
  have hrunning : s.isRunning := isRunning_eq_true htask
  by_cases hnow : ∃ w, timeout = some w ∧ w ≤ 0
  · obtain ⟨w, rfl, hw⟩ := hnow
    have htime : s.clock + max w 0 = s.clock := by rw [max_eq_right hw, add_zero]
    obtain ⟨hidle, lost', hlost, htimeline⟩ := timeline_forceStop hrunning passes lost
    rw [awaitEnd, if_pos hw]
    refine ⟨hidle, _, lost', htimeline, ?_⟩
    cases hpass : s.suspension? with
    | none =>
      rw [hlost hpass]
      exact .resting hrunning hpass fun _ => ⟨w, rfl, hw⟩
    | some x =>
      have hin : s.suspension?.isSome := by rw [hpass]; rfl
      have hstopped : Stopped s (some w) lost _ lost' := .timedOut (.inl hin) rfl
      rwa [htime, beginning, if_pos hin] at hstopped
  · rcases h.hasBegun_or htask hwaited with hpass | ⟨t, hcreated, hlength⟩
    · obtain ⟨hbegun, -⟩ := h.pass hpass
      cases timeout with
      | none =>
        rw [awaitEnd, hbegun.begun_eq]
        obtain ⟨hidle, trace, htimeline, hstopped⟩ := h.timeline_runOut hstop hpass passes lost
        exact ⟨hidle, trace, lost, htimeline, hstopped⟩
      | some w =>
        have hw : 0 < w := not_le.1 fun hw => hnow ⟨w, rfl, hw⟩
        rw [awaitEnd, if_neg (not_le.2 hw)]
        exact h.timeline_runTo hstop hpass hw passes lost
    · obtain ⟨hidle, htimeline, hstopped⟩ :=
        timeline_leaves hstop hcreated hlength timeout passes lost
      cases timeout with
      | none =>
        have hout : Service.runOut (Sink.lateAnswers s.collector.sink + 1) s.begun = s.begun := by
          rw [Service.runOut, isRunning_eq_false hidle]
          rfl
        rw [awaitEnd, hout]
        exact ⟨hidle, _, lost, htimeline, hstopped⟩
      | some w =>
        have hw : ¬ w ≤ 0 := fun hw => hnow ⟨w, rfl, hw⟩
        have hout : s.runTo (s.clock + w) (some s.timersSet) = s.begun := by
          have hagain := runTo_idle hidle (s.clock + w) (some s.timersSet)
          rw [Service.runTo] at hagain ⊢
          rwa [begun_idle hidle] at hagain
        simp only [awaitEnd, if_neg hw, hout, isRunning_eq_false hidle, Bool.false_eq_true,
          if_false]
        exact ⟨hidle, _, lost, htimeline, hstopped⟩

/-- A stop lies on a timeline, comes to its end in one of the ways, and leaves no background. -/
lemma InTime.timeline_stop (h : s.InTime) (timeout : Option Rat)
    (passes : List (Suspension × List Text)) (lost : Nat) :
    (s.stop timeout).task = none ∧ ∃ trace lost',
      Timeline ⟨s, passes, lost⟩ trace ⟨s.stop timeout, passes, lost'⟩ ∧
        Stopped s timeout lost trace lost' := by
  by_cases hnever : s.stopRequested = none
  · have hidle : s.task = none := by
      by_contra htask
      have hstarted := h.started (Option.isSome_iff_ne_none.2 htask)
      rw [hnever] at hstarted
      contradiction
    rw [stop, if_pos hnever]
    exact ⟨hidle, [], lost, .refl, .idle hidle⟩
  · have hrequested : InTime { s with stopRequested := some true } :=
      h.of_same rfl rfl rfl fun _ => rfl
    have hrequest : Timeline ⟨s, passes, lost⟩ []
        ⟨{ s with stopRequested := some true }, passes, lost⟩ :=
      Timeline.refl.unseen .requestStop trivial rfl
    have hreported {s' : Service ScriptedSink} {trace : List (Rat × Event)} {lost' : Nat}
        (htimeline : Timeline ⟨{ s with stopRequested := some true }, passes, lost⟩ trace
          ⟨s', passes, lost'⟩) :
        Timeline ⟨s, passes, lost⟩ trace ⟨s'.reportStopped, passes, lost'⟩ :=
      (hrequest.trans htimeline).unseen (.report .info _) trivial rfl
    rw [stop, if_neg hnever]
    simp only
    split
    next htask => exact ⟨htask, [], lost, hreported .refl, .idle htask⟩
    next task htask =>
      cases hdelay : task.isDelay with
      | true =>
        have hdelaying :
            ({ s with stopRequested := some true } : Service ScriptedSink).isDelaying := by
          rw [isDelaying, htask]
          exact hdelay
        obtain ⟨htimeline, hstopped⟩ := timeline_endDelay rfl hdelaying timeout passes lost
        exact ⟨rfl, _, lost, hreported htimeline, hstopped.of_requested⟩
      | false =>
        obtain ⟨hidle, trace, lost', htimeline, hstopped⟩ :=
          hrequested.timeline_awaitEnd rfl htask hdelay timeout passes lost
        exact ⟨hidle, trace, lost', hreported htimeline, hstopped.of_requested⟩

end Service

/-! ## Operations -/

namespace Operation

/-- The operation concerns the background, and leaves the settings as they are. -/
def isBackground : Operation → Bool
  | .tick | .setSettings _ _ => false
  | _ => true

def isStart : Operation → Bool
  | .start => true
  | _ => false

variable {operation : Operation} {operations : List Operation}

lemma leads (h : s.InTime) (hbackground : operation.isBackground) :
    s.Leads (operation.apply s) := by
  cases operation with
  | start => exact s.leads_start
  | stop timeout =>
    intro passes lost
    obtain ⟨-, trace, lost', htimeline, -⟩ := h.timeline_stop timeout passes lost
    exact ⟨trace, lost', htimeline⟩
  | advance seconds => exact h.leads_waitUntil _ _
  | settle => exact s.leads_begun.trans (Service.leads_goesOn (h.runTo _ _).1)
  | tick => contradiction
  | cancel => exact s.leads_cancel
  | sleep wait => exact h.leads_sleep wait
  | setSettings search ingestion => contradiction
  | setFiles files => exact s.leads_setFiles files

lemma leads_foldl (h : s.InTime) (hbackground : ∀ operation ∈ operations, operation.isBackground) :
    s.Leads (operations.foldl apply s) := by
  induction operations generalizing s with
  | nil => exact .refl s
  | cons operation operations ih =>
    obtain ⟨hfirst, hrest⟩ := List.forall_mem_cons.1 hbackground
    have hleads := leads h hfirst
    have hafter : (operation.apply s).InTime := by
      obtain ⟨trace, lost, htimeline⟩ := hleads [] 0
      exact htimeline.inTime h
    exact hleads.trans (ih hafter hrest)

/-- Where there is no background, only a start makes one, and nothing is sent. -/
lemma apply_idle (h : s.task = none) (hbackground : operation.isBackground)
    (hstart : operation.isStart = false) :
    (operation.apply s).task = none ∧ (operation.apply s).collector.sink = s.collector.sink := by
  cases operation with
  | start => contradiction
  | stop timeout => exact Service.stop_idle h timeout
  | advance seconds => exact Service.waitUntil_idle h _ _
  | settle =>
    rw [apply, Service.settle, Service.runTo_idle h]
    exact ⟨h, rfl⟩
  | tick => contradiction
  | cancel =>
    rw [apply, Service.cancel, h]
    exact ⟨h, rfl⟩
  | sleep wait =>
    rw [apply, Service.sleep]
    split
    · exact ⟨h, rfl⟩
    · split
      · rw [Service.begun_idle h]
        exact ⟨h, rfl⟩
      · split
        · exact ⟨h, rfl⟩
        · exact Service.waitUntil_idle (s := { s with timersSet := s.timersSet + 1 }) h _ _
  | setSettings search ingestion => contradiction
  | setFiles files => exact ⟨h, rfl⟩

lemma foldl_idle (h : s.task = none)
    (hlater : ∀ operation ∈ operations, operation.isBackground ∧ operation.isStart = false) :
    (operations.foldl apply s).task = none ∧
      (operations.foldl apply s).collector.sink = s.collector.sink := by
  induction operations generalizing s with
  | nil => exact ⟨h, rfl⟩
  | cons operation operations ih =>
    obtain ⟨⟨hbackground, hstart⟩, hrest⟩ := List.forall_mem_cons.1 hlater
    obtain ⟨hidle, hsink⟩ := apply_idle h hbackground hstart
    obtain ⟨hidle', hsink'⟩ := ih hidle hrest
    exact ⟨hidle', hsink'.trans hsink⟩

end Operation

/-! ## From the first start on -/

lemma Timeline.balanced {x y : Scene ScriptedSink} {capacity answers : Nat}
    (h : Timeline x trace y) (hx : Scene.Balanced capacity answers x) :
    Scene.Balanced capacity answers y := by
  induction h with
  | refl => exact hx
  | after _ _ ih => exact ih.after _

lemma Service.tracks_new {site : Site} {files : Files} {sink : ScriptedSink}
    {search : SearchSettings} {ingestion : IngestionSettings}
    (hnew : Service.new? site files sink search ingestion = some s)
    (hpoll : Validation.isAboveZero ingestion.pollInterval) :
    s.InTime ∧ s.ingestion = ingestion ∧ s.Tracks ingestion [] none := by
  obtain ⟨outbox, -, rfl⟩ := Option.map_eq_some_iff.1 hnew
  exact ⟨.of_idle (isNoWait_waitOf hpoll) rfl, rfl,
    ⟨rfl, .nil, .nothingYet, fun e he => by simp at he⟩⟩

lemma Service.Tracks.isRunning_iff {i : IngestionSettings} {last? : Option (Rat × Event)}
    (h : s.Tracks i trace last?) : s.isRunning ↔ ∃ e ∈ trace.getLast?, e.2 ≠ .left := by
  obtain ⟨-, hrecorded, hdoing, -⟩ := h
  rw [hrecorded.last, isRunning]
  generalize s.task = task? at hdoing
  cases hdoing <;> simp

/-- **One pass at a time, and a stop is final.**  Take a new service with a poll interval above
zero, and any answers of the sink.

* On every timeline the events of the background follow one another: it begins with a start, there
  is no other start before the background has come to its end, and a pass is not begun in the middle
  of another one, but just when the initial delay, or the poll interval since the end of the pass
  before, has gone by.  The service counts the passes that came to their end, and those of them that
  failed.
* Any operations, other than passes in the foreground and changes of the settings, lie on a
  timeline.  Where the background is running then, another start changes nothing but the journal.
* A stop comes to its end in one of the ways of `Service.Stopped`: a pass in progress is cancelled
  only when all of the time-out has gone by, and otherwise it comes to its end and nothing is lost.
  So it is with the first pass of a background that has not begun, if there is no delay before it
  and the time-out has some length.
  If all answers can be booked, no documents are missing from the books but those that were lost.
* After the stop nothing is running and nothing is sent, whatever is asked but another start. -/
theorem one_pass_at_a_time {site : Site} {files : Files} {script : List Delivery}
    {search : SearchSettings} {ingestion : IngestionSettings} {s : Service ScriptedSink}
    (hnew : Service.new? site files ⟨script, [], []⟩ search ingestion = some s)
    (hpoll : Validation.isAboveZero ingestion.pollInterval) :
    (∀ trace scene, Timeline ⟨s, [], 0⟩ trace scene → let s' := scene.service
      (∀ e ∈ trace.head?, e.2 = .started) ∧ trace.IsChain (Follows ingestion) ∧
        (s'.isRunning ↔ ∃ e ∈ trace.getLast?, e.2 ≠ .left) ∧
        s'.ticks = trace.countP (·.2.isEnd) ∧ s'.failedTicks = trace.countP (·.2.isFailure) ∧
        s'.failedTicks ≤ s'.ticks) ∧
    ∀ operations : List Operation, (∀ operation ∈ operations, operation.isBackground) →
      let s' := operations.foldl Operation.apply s
      (s'.isRunning → s'.start = s'.report .warning "Ingestion already running") ∧
      ∃ trace lost, Timeline ⟨s, [], 0⟩ trace ⟨s', [], lost⟩ ∧
        ∀ timeout, let stopped := s'.stop timeout
          (∃ trace' lost', Timeline ⟨s', [], lost⟩ trace' ⟨stopped, [], lost'⟩ ∧
            s'.Stopped timeout lost trace' lost' ∧
            ((∀ d ∈ script, d.outcome.IsBooked) → stopped.collector.unbooked = lost')) ∧
          ∀ later : List Operation,
            (∀ operation ∈ later, operation.isBackground ∧ operation.isStart = false) →
            (later.foldl Operation.apply stopped).isRunning = false ∧
              (later.foldl Operation.apply stopped).collector.sink = stopped.collector.sink := by
  obtain ⟨hin, hsettings, hfirst⟩ := Service.tracks_new hnew hpoll
  subst hsettings
  refine ⟨fun trace scene htimeline => ?_, fun operations hoperations => ?_⟩
  · obtain ⟨last?, htracks⟩ := htimeline.tracks hfirst hin
    have hticks := htracks.recorded.ends
    have hfailed := htracks.recorded.failures
    have hfewer : trace.countP (·.2.isFailure) ≤ trace.countP (·.2.isEnd) :=
      List.countP_mono_left fun e _ hfailure => by
        cases hevent : e.2 <;> simp_all [Event.isFailure, Event.isEnd]
    exact ⟨htracks.recorded.starts, htracks.recorded.follows, htracks.isRunning_iff, hticks.symm,
      hfailed.symm, by omega⟩
  · intro s'
    obtain ⟨trace, lost, htimeline⟩ := Operation.leads_foldl hin hoperations [] 0
    refine ⟨fun hrunning => if_pos hrunning, trace, lost, htimeline, fun timeout => ?_⟩
    obtain ⟨hidle, trace', lost', htimeline', hstopped⟩ :=
      (htimeline.inTime hin).timeline_stop timeout [] lost
    refine ⟨⟨trace', lost', htimeline', hstopped, fun hbooked => ?_⟩, fun later hlater => ?_⟩
    · obtain ⟨-, hbalanced⟩ := Service.balanced_new hnew hbooked
      have hunbooked := (htimeline'.balanced (htimeline.balanced hbalanced)).unbooked
      have hnothing : Scene.inFlight ⟨s'.stop timeout, [], lost'⟩ = 0 := by
        rw [Scene.inFlight_eq, Service.suspension?, hidle]
        rfl
      rw [hnothing] at hunbooked
      simpa using hunbooked
    · obtain ⟨hidle', hsink⟩ := Operation.foldl_idle hidle hlater
      exact ⟨Service.isRunning_eq_false hidle', hsink⟩

/-- The first pass waits three seconds for the answer to its only batch.  It is stopped with a
time-out of one second, and the document of the batch is lost. -/
theorem one_pass_at_a_time_of_late_answer :
    let site : Site := ⟨⟨0⟩, "/", "/", ⟨0, by decide⟩⟩
    let files : Files := ⟨[([['a']], .file 0)], [(0, [120, 10])], []⟩
    let search : SearchSettings :=
      ⟨[], none, none, "logs", true, true, true, .zero false, .zero false⟩
    let ingestion : IngestionSettings := ⟨true, ["/a"], 1, .ofInt 2, .zero false⟩
    let script : List Delivery := [⟨.unavailable [], 3⟩]
    let s : Service ScriptedSink := ⟨site, search, ingestion,
      .new files ⟨"logs", 1, [], 0, 0, 0, 0⟩ ⟨script, [], []⟩, 0, 0, none, none, 0, 0⟩
    let operations : List Operation := [.start, .settle]
    let s' := operations.foldl Operation.apply s
    let stopped := s'.stop (some 1)
    Service.new? site files ⟨script, [], []⟩ search ingestion = some s ∧
      Validation.isAboveZero ingestion.pollInterval ∧
      (∀ operation ∈ operations, operation.isBackground) ∧ s'.suspension?.isSome ∧
      (∃ trace lost trace' lost', Timeline ⟨s, [], 0⟩ trace ⟨s', [], lost⟩ ∧
        trace.IsChain (Follows ingestion) ∧ s'.Stopped (some 1) lost trace' lost' ∧
        stopped.collector.unbooked = lost') ∧
      stopped.collector.unbooked = 1 ∧
      s'.start = s'.report .warning "Ingestion already running" ∧ stopped.isRunning = false := by
  intro site files search ingestion script s operations s' stopped
  have hnew : Service.new? site files ⟨script, [], []⟩ search ingestion = some s := rfl
  have hpoll : Validation.isAboveZero ingestion.pollInterval := by decide +kernel
  have hbackground : ∀ operation ∈ operations, operation.isBackground := by decide
  have hscript : ∀ d ∈ script, d.outcome.IsBooked := fun d hd => by
    rw [List.mem_singleton.1 hd]
    trivial
  obtain ⟨hpass, hunbooked⟩ : s'.suspension?.isSome ∧ stopped.collector.unbooked = 1 := by
    -- the pass that is begun at once finds the file
    have hfind : files.find "/a" = .file 0 :=
      Files.find_eq_file ['a'] rfl (by decide) (by decide) (by decide)
    have hkey : site.key "/a" = "/a" := by decide +kernel
    have hmake : ({ s.start with clock := 0 + 0 } : Service ScriptedSink).makePass = _ :=
      Service.makePass_eq rfl rfl hkey (by decide) hfind
    have htask : s.start.task = some (.created ⟨some (0 + 0), 0⟩) := rfl
    have hwake : s.start.wake = ({ s.start with clock := 0 + 0 } : Service ScriptedSink).afterPass
        ({ s.start with clock := 0 + 0 } : Service ScriptedSink).makePass := by
      rw [Service.wake, htask]
      rfl
    have hbegun : s.start.begun = s.start :=
      Service.HasBegun.begun_eq fun _ _ => by decide +kernel
    have hclock : s.start.clock = 0 := by decide +kernel
    have hfuel : s.start.wakesUntil 0 = 2 + 1 := by decide +kernel
    have hbefore : (Task.created ⟨some (0 + 0), 0⟩).timer.isBefore 0 none := by decide +kernel
    have hrun : s' = Service.runUntil 0 none 2 s.start.wake := by
      simp only [s', operations, List.foldl_cons, List.foldl_nil, Operation.apply, Service.settle,
        Service.runTo, hbegun, hclock, hfuel]
      exact Service.runUntil_succ htask hbefore 2
    simp only [stopped]
    rw [hrun, hwake, hmake]
    exact ⟨by decide +kernel, by decide +kernel⟩
  obtain ⟨hseen, hdone⟩ := one_pass_at_a_time hnew hpoll
  obtain ⟨hagain, trace, lost, htimeline, hstop⟩ := hdone operations hbackground
  obtain ⟨-, hfollows, -⟩ := hseen trace _ htimeline
  obtain ⟨⟨trace', lost', -, hstopped, hlost⟩, hlater⟩ := hstop (some 1)
  obtain ⟨hidle, -⟩ := hlater [] (List.forall_mem_nil _)
  rw [List.foldl_nil] at hidle
  have hrunning : s'.isRunning := Service.isRunning_of_suspension? hpass
  exact ⟨hnew, hpoll, hbackground, hpass,
    ⟨trace, lost, trace', lost', htimeline, hfollows, hstopped, hlost hscript⟩, hunbooked,
    hagain hrunning, hidle⟩

end LogSearch.Ingestion
