import LogSearch.Proofs.Ingestion.Background
import LogSearch.Proofs.Ingestion.Handing
import LogSearch.Proofs.Search.Requests
import LogSearch.Settings.Load

/-!
# A stop is noticed

Between its passes the background waits, and each wait tells it whether a stop was requested.  A
request stays until the next start (`Scene.stopRequested_run`), and a wait of some length notices it
without letting time pass.  A wait of no length does not notice it (`Service.sleep_of_requested`).
The poll interval that settings admit has some length; an initial delay may have none.

So the background begins no more passes after a request, whatever it is doing then and whatever
comes in between, as long as its delay is not over at the very moment of the request
(`Service.Stopping.run`).  It is over at that moment where it has no length.  A background that has
not begun at the request, and has a delay before its first pass, notices the request in that.

`stop_honoured` puts this together.  `stop_not_noticed` shows the wait and the pass that it leaves
out.
-/

namespace LogSearch

open Validation

/-! ## The waits that settings admit -/

namespace Ingestion

lemma isNoWait_waitOf_eq {x : Binary64} (h : x.isNegative = false) :
    isNoWait (waitOf x) = x.isZero := by
  cases hzero : x.isZero with
  | false =>
    refine isNoWait_waitOf ?_
    rw [isAboveZero, h, hzero]
    rfl
  | true =>
    cases x with
    | nan => contradiction
    | infinite negative => contradiction
    | finite negative m p hm =>
      obtain rfl : m = 0 := of_decide_eq_true hzero
      have hmagnitude : mkRat ((Binary64.ratio 0 p).1 : Int) (Binary64.ratio 0 p).2 = 0 := by
        rw [Binary64.ratio]
        split <;> simp
      simp [isNoWait, waitOf, Binary64.toRat?, hmagnitude]

end Ingestion

lemma member_eq_ok {α : Type} {p : α → Prop} {ms : Members} {key : Text} {default a : α}
    {read : Json → Checked α} (h : member ms key default read = .ok a) (hdefault : p default)
    (hread : ∀ j a, read j = .ok a → p a) : p a := by
  rw [member] at h
  split at h
  next =>
    obtain rfl := Except.ok.inj h
    exact hdefault
  next j _ => exact hread j a (Checked.under_eq_ok_iff.1 h)

/-- The number of seconds between passes is above zero, and the number before the first one is not
below zero. -/
lemma IngestionSettings.admitted {e : Environment} {given : Members} {i : IngestionSettings}
    (h : IngestionSettings.load e given = .ok i) :
    isAboveZero i.pollInterval ∧ i.initialDelay.isNegative = false := by
  obtain ⟨ms, -, hload⟩ := Except.bind_eq_ok_iff.1 h
  have hcheck : IngestionSettings.check ms = .ok i := Except.mapError_eq_ok_iff.1 hload
  simp only [IngestionSettings.check, Checked.ap_eq_ok_iff] at hcheck
  obtain ⟨_, delay, ⟨_, poll, ⟨_, _, ⟨_, _, ⟨_, _, hmk, -, rfl⟩, -, rfl⟩, -, rfl⟩, hpoll, rfl⟩,
    hdelay, rfl⟩ := hcheck
  obtain rfl := Except.ok.inj hmk
  have hinterval : isAboveZero poll = true :=
    member_eq_ok (p := fun x => isAboveZero x = true) hpoll (by decide +kernel)
      fun j x hx => (Checked.require_eq_ok_iff.1 hx).2
  have hwait : (!delay.isNegative) = true :=
    member_eq_ok (p := fun x => (!x.isNegative) = true) hdelay (by decide +kernel)
      fun j x hx => (Checked.require_eq_ok_iff.1 hx).2
  exact ⟨hinterval, by simpa using hwait⟩

namespace Ingestion

/-! ## Requests -/

/-- The background was started, a stop was requested after that, and there was no start since. -/
def StopRequested (actions : List Action) : Prop :=
  ∃ before later, actions = before ++ .requestStop :: later ∧ .start ∈ before ∧ .start ∉ later

namespace Service

variable {s : Service ScriptedSink} {action : Action}

/-- Once a stop was requested the waits of some length notice it. -/
lemma sleep_of_requested (h : s.stopRequested = some true) (wait : Option Rat) :
    s.sleep wait = if isNoWait wait then (false, s.begun) else (true, s) := by
  rw [sleep, h]
  cases isNoWait wait <;> rfl

lemma stopRequested_wake : s.wake.stopRequested = s.stopRequested := by
  rw [wake]
  split
  next => rfl
  next task _ => cases task <;> exact stopRequested_afterPass _ _

lemma events_idle (h : s.task = none) (hstart : action ≠ .start) : s.events action = [] := by
  cases action with
  | start => exact absurd rfl hstart
  | settleIn => simp [events, h, isRunning]
  | wake => simp only [events, h]
  | cancel => simp [events, suspension?, h, isRunning]
  | endDelay => simp [events, h, isDelaying]
  | _ => rfl

end Service

namespace Scene

variable {x : Scene ScriptedSink} {action : Action} {actions : List Action}

/-- The step: a request stays. -/
lemma stopRequested_after (h : x.service.stopRequested = some true) (hstart : action ≠ .start) :
    (x.after action).service.stopRequested = some true := by
  cases action with
  | start => exact absurd rfl hstart
  | settleIn => exact x.service.stopRequested_begun.trans h
  | wake => exact Service.stopRequested_wake.trans h
  | beginPass =>
    rw [after]
    split <;> exact h
  | resumePass place =>
    rw [after]
    split <;> exact h
  | cancel =>
    obtain ⟨c, -, hcancel⟩ := x.service.exists_cancel_eq
    rw [after, hcancel]
    exact h
  | endDelay =>
    rw [after]
    split <;> exact h
  | requestStop => rfl
  | _ => exact h

/-- The run: it stays until the next start. -/
lemma stopRequested_run (h : x.service.stopRequested = some true) (hstart : .start ∉ actions) :
    (x.run actions).service.stopRequested = some true := by
  induction actions generalizing x with
  | nil => exact h
  | cons action actions ih =>
    obtain ⟨hfirst, hrest⟩ := not_or.1 (mt List.mem_cons.2 hstart)
    exact ih (stopRequested_after h (Ne.symm hfirst)) hrest

lemma task_after_idle (h : x.service.task = none) (hstart : action ≠ .start) :
    (x.after action).service.task = none := by
  cases action with
  | start => exact absurd rfl hstart
  | settleIn =>
    rw [after, Service.begun_idle h]
    exact h
  | wake =>
    rw [after, Service.wake, h]
    exact h
  | beginPass =>
    rw [after]
    split <;> exact h
  | resumePass place =>
    rw [after]
    split <;> exact h
  | cancel =>
    rw [after, Service.cancel, h]
    exact h
  | endDelay =>
    rw [after]
    split
    · rfl
    · exact h
  | _ => exact h

lemma task_run_idle (h : x.service.task = none) (hstart : .start ∉ actions) :
    (x.run actions).service.task = none := by
  induction actions generalizing x with
  | nil => exact h
  | cons action actions ih =>
    obtain ⟨hfirst, hrest⟩ := not_or.1 (mt List.mem_cons.2 hstart)
    exact ih (task_after_idle h (Ne.symm hfirst)) hrest

end Scene

lemma StopRequested.stopRequested_eq {actions : List Action} (h : StopRequested actions)
    (x : Scene ScriptedSink) : (x.run actions).service.stopRequested = some true := by
  obtain ⟨before, later, rfl, -, hlater⟩ := h
  rw [Scene.run_append]
  exact Scene.stopRequested_run (x := (x.run before).after .requestStop) rfl hlater

/-! ## The background after a request -/

/-- What can come next when a stop was requested.  Nothing is started.  A delay ends without
waiting: no time goes by in it, and the background goes on from it only if it was over already. -/
def Service.Heeds (s : Service ScriptedSink) : Action → Prop
  | .start => False
  | .wake => s.InOrder .wake ∧ (s.suspension? = none → ∀ d ∈ s.due?, d ≤ s.clock)
  | .setTime clock timersSet =>
    s.InOrder (.setTime clock timersSet) ∧ (s.isRunning → s.suspension? = none → clock = s.clock)
  | action => s.InOrder action

/-- Such actions can come one after the other. -/
def Scene.Heeds (x : Scene ScriptedSink) : List Action → Prop
  | [] => True
  | action :: more => x.service.Heeds action ∧ (x.after action).Heeds more

/-- No pass is about to begin: one is in progress, or there is a delay before the next one, and it
is not over. -/
def Service.NoneDue (s : Service ScriptedSink) : Prop :=
  s.suspension? = none → s.HasBegun → ∀ d ∈ s.due?, s.clock < d

/-- A stop was requested when no pass was about to begin. -/
structure Service.Stopping (s : Service ScriptedSink) : Prop where
  inTime : s.InTime
  requested : s.stopRequested = some true
  noneDue : s.NoneDue

variable {x : Scene ScriptedSink} {action : Action} {actions : List Action}

lemma Service.Heeds.inOrder {s : Service ScriptedSink} (h : s.Heeds action) : s.InOrder action := by
  cases action with
  | start => exact h.elim
  | wake => exact h.1
  | setTime clock timersSet => exact h.1
  | _ => exact h

lemma Service.Stopping.of_idle {s : Service ScriptedSink} (hin : s.InTime)
    (hstop : s.stopRequested = some true) (h : s.task = none) : s.Stopping :=
  ⟨hin, hstop, fun _ _ d hd => by simp [due?_eq_none h] at hd⟩

/-- The background does not go on from a delay. -/
lemma Service.Stopping.suspension?_isSome {s : Service ScriptedSink} (h : s.Stopping)
    (hwake : s.Heeds .wake) : s.suspension?.isSome := by
  obtain ⟨⟨hbegun, hdue⟩, hover⟩ := hwake
  obtain ⟨d, hd⟩ := Option.isSome_iff_exists.1 hdue
  by_contra hnone
  have hdelay := Option.not_isSome_iff_eq_none.1 hnone
  exact absurd (hover hdelay d hd) (not_le.2 (h.noneDue hdelay hbegun d hd))

/-- The step: after a request no pass begins. -/
lemma Service.Stopping.notMem_events {s : Service ScriptedSink} (h : s.Stopping)
    (haction : s.Heeds action) : .began ∉ s.events action := by
  cases action with
  | start => exact haction.elim
  | settleIn =>
    simp only [events]
    split <;> simp
  | wake =>
    obtain ⟨x, hx⟩ := Option.isSome_iff_exists.1 (h.suspension?_isSome haction)
    obtain ⟨task, htask, hsuspension⟩ := Option.bind_eq_some_iff.1 hx
    have hpart : .began ∉ (s.passPart task).2.events := by
      cases (s.passPart task).2 <;> simp [PassResult.events]
    have hend : .began ∉ if s.wake.isRunning then [] else [Event.left] := by
      split <;> simp
    simp only [events, htask, hsuspension, Option.isSome_some, if_true, List.nil_append,
      List.mem_append, not_or]
    exact ⟨hpart, hend⟩
  | cancel =>
    simp only [events]
    split <;> split <;> simp
  | endDelay =>
    simp only [events]
    split <;> simp
  | _ => simp [events]

lemma Service.Stopping.after (h : x.service.Stopping) (haction : x.service.Heeds action) :
    (x.after action).service.Stopping := by
  have hin := Scene.inTime_after h.inTime haction.inOrder
  have hstart : action ≠ .start := by
    rintro rfl
    exact haction
  have hstop := Scene.stopRequested_after h.requested hstart
  cases action with
  | start => exact haction.elim
  | settleIn =>
    have hbegun := begun_spec x.service
    simp only [Scene.after] at hin ⊢
    generalize x.service.begun = s' at hbegun hin
    cases hbegun with
    | stays => exact h
    | delays _ _ hgoesOn => exact absurd h.requested hgoesOn
    | leaves => exact .of_idle hin h.requested rfl
  | wake =>
    have hpass := h.suspension?_isSome haction
    refine ⟨hin, hstop, ?_⟩
    obtain ⟨d, hd⟩ := Option.isSome_iff_exists.1 haction.1.2
    obtain ⟨task, -, -, hwoken⟩ := h.inTime.exists_woken hd
    simp only [Scene.after]
    generalize x.service.wake = s' at hwoken
    cases hwoken with
    | waits => exact fun hnone => absurd hnone (by simp [Service.suspension?, Task.suspension?])
    | rests _ _ _ hgoesOn => exact absurd h.requested hgoesOn
    | ends => exact fun _ _ d hd => by simp [Service.due?] at hd
  | setTime clock timersSet =>
    refine ⟨hin, hstop, fun hnone hbegun d hd => ?_⟩
    have hrunning : x.service.isRunning := by
      obtain ⟨task, htask, -⟩ := Option.bind_eq_some_iff.1 hd
      exact Service.isRunning_eq_true htask
    obtain rfl := haction.2 hrunning hnone
    exact h.noneDue hnone hbegun d hd
  | cancel =>
    obtain ⟨c, -, hcancel⟩ := x.service.exists_cancel_eq
    refine .of_idle hin hstop ?_
    rw [Scene.after, hcancel]
  | endDelay =>
    by_cases hdelay : x.service.isDelaying
    · refine .of_idle hin hstop ?_
      rw [Scene.after, if_pos hdelay]
    · rw [Scene.after, if_neg hdelay]
      exact h
  | beginPass =>
    refine ⟨hin, hstop, ?_⟩
    rw [Scene.after]
    split <;> exact h.noneDue
  | resumePass place =>
    refine ⟨hin, hstop, ?_⟩
    rw [Scene.after]
    split <;> exact h.noneDue
  | cancelPass place => exact ⟨hin, hstop, h.noneDue⟩
  | requestStop => exact ⟨hin, hstop, h.noneDue⟩
  | report severity message => exact ⟨hin, hstop, h.noneDue⟩
  | setSettings search ingestion => exact haction.elim
  | setFiles files => exact ⟨hin, hstop, h.noneDue⟩

/-- The run: no pass begins any more. -/
lemma Service.Stopping.run (h : x.service.Stopping) (hactions : x.Heeds (actions ++ [action])) :
    .began ∉ (x.run actions).service.events action := by
  induction actions generalizing x with
  | nil => exact h.notMem_events hactions.1
  | cons first actions ih => exact ih (h.after hactions.1) hactions.2

/-- No pass begins in a stop. -/
lemma Service.Stopped.notMem_trace {s : Service ScriptedSink} {timeout : Option Rat}
    {lost lost' : Nat} {trace : List (Rat × Event)} (h : s.Stopped timeout lost trace lost')
    (hin : s.InTime) (hnone : s.NoneDue) : ∀ e ∈ trace, e.2 ≠ .began := by
  have hbeginning (hpass : s.suspension?.isSome ∨ s.IsNext) : s.beginning = [] := by
    rcases hpass with hpass | ⟨⟨t, hcreated⟩, hbegun⟩
    · rw [beginning, if_pos hpass]
    · have hdue : s.due? = some s.clock := by
        rw [due?, hcreated]
        exact hin.created t hcreated
      have hdelay : s.suspension? = none := by
        rw [suspension?, hcreated]
        rfl
      exact absurd (hnone hdelay hbegun _ hdue) (lt_irrefl _)
  cases h with
  | idle => simp
  | resting => simp
  | graceful hpass => simp [hbeginning hpass]
  | timedOut hpass => simp [hbeginning (hpass.imp_right And.left)]

/-! ## Every service -/

/-- **A stop is noticed.**  Take a new service whose ingestion settings were loaded.

* Whatever has happened, if a stop was requested and there was no start since, no wait lets time
  pass.  Every wait of some length says that a stop was requested.  All poll intervals that settings
  admit are of that kind, and so are all initial delays but that of no length.
* Let a stop be requested at any point of any timeline at which no pass is about to begin.  Whatever
  can come after that, no pass begins before the next start.  The stop of the service lies on such a
  timeline, and when it is over nothing is seen of the background before the next start. -/
theorem stop_honoured {site : Site} {files : Files} {script : List Delivery}
    {search : SearchSettings} {ingestion : IngestionSettings} {s : Service ScriptedSink}
    {e : Environment} {given : Members} (hload : IngestionSettings.load e given = .ok ingestion)
    (hnew : Service.new? site files ⟨script, [], []⟩ search ingestion = some s) :
    (∀ actions, StopRequested actions → let s' := (Scene.run ⟨s, [], 0⟩ actions).service
      (∀ wait, s'.sleep wait = if isNoWait wait then (false, s'.begun) else (true, s')) ∧
        s'.begun.clock = s'.clock ∧
        ∀ e' given' i, IngestionSettings.load e' given' = .ok i →
          s'.sleep (waitOf i.pollInterval) = (true, s') ∧
          s'.sleep (waitOf i.initialDelay) =
            if i.initialDelay.isZero then (false, s'.begun) else (true, s')) ∧
    ∀ trace x, Timeline ⟨s, [], 0⟩ trace x → x.service.NoneDue →
      (∀ actions action, (x.after .requestStop).Heeds (actions ++ [action]) →
        .began ∉ ((x.after .requestStop).run actions).service.events action) ∧
      ∀ timeout, ∃ trace' lost',
        Timeline x trace' ⟨x.service.stop timeout, x.passes, lost'⟩ ∧
        (∀ e ∈ trace', e.2 ≠ .began) ∧
        ∀ actions action, .start ∉ actions → action ≠ .start →
          (Scene.run ⟨x.service.stop timeout, x.passes, lost'⟩ actions).service.events action =
            [] := by
  obtain ⟨hpoll, -⟩ := IngestionSettings.admitted hload
  obtain ⟨hin, -, -⟩ := Service.tracks_new hnew hpoll
  refine ⟨fun actions hactions => ?_, fun trace x htimeline hnone => ?_⟩
  · intro s'
    have hsleep := Service.sleep_of_requested (hactions.stopRequested_eq ⟨s, [], 0⟩)
    refine ⟨hsleep, (Service.begun_spec s').clock_eq, fun e' given' i hi => ?_⟩
    obtain ⟨hinterval, hdelay⟩ := IngestionSettings.admitted hi
    have hlong := hsleep (waitOf i.pollInterval)
    have hfirst := hsleep (waitOf i.initialDelay)
    rw [isNoWait_waitOf hinterval] at hlong
    rw [isNoWait_waitOf_eq hdelay] at hfirst
    exact ⟨hlong, hfirst⟩
  · have hx := htimeline.inTime hin
    have hrequested : (x.after .requestStop).service.Stopping :=
      ⟨Scene.inTime_after hx trivial, rfl, hnone⟩
    refine ⟨fun actions action => hrequested.run, fun timeout => ?_⟩
    obtain ⟨hidle, trace', lost', hstop, hstopped⟩ := hx.timeline_stop timeout x.passes x.lost
    refine ⟨trace', lost', hstop, hstopped.notMem_trace hx hnone,
      fun actions action hactions haction => ?_⟩
    exact Service.events_idle (Scene.task_run_idle hidle hactions) haction

/-- A stop is requested in the initial delay, which is one of five seconds. -/
theorem stop_honoured_of_delay :
    let site : Site := ⟨⟨0⟩, "/", "/", ⟨0, by decide⟩⟩
    let search : SearchSettings :=
      ⟨[], none, none, "logs", true, true, true, .zero false, .zero false⟩
    let ingestion : IngestionSettings :=
      ⟨false, ["logs/application.log"], 200, .ofInt 30, .ofInt 5⟩
    let s : Service ScriptedSink := ⟨site, search, ingestion,
      .new ⟨[], [], []⟩ ⟨"logs", 200, [], 0, 0, 0, 0⟩ ⟨[], [], []⟩, 0, 0, none, none, 0, 0⟩
    let started := Scene.after ⟨s, [], 0⟩ .start
    let x := started.after .settleIn
    let s' := (x.after .requestStop).service
    IngestionSettings.load ⟨[], none⟩ [] = .ok ingestion ∧
      Service.new? site ⟨[], [], []⟩ ⟨[], [], []⟩ search ingestion = some s ∧
      s'.sleep (waitOf ingestion.pollInterval) = (true, s') ∧
      s'.sleep (waitOf ingestion.initialDelay) = (true, s') ∧
      (x.after .requestStop).Heeds [.endDelay] ∧ .began ∉ s'.events .endDelay ∧
      ∃ trace lost, Timeline x trace ⟨x.service.stop (some 10), [], lost⟩ ∧
        ∀ e ∈ trace, e.2 ≠ .began := by
  intro site search ingestion s started x s'
  have hload : IngestionSettings.load ⟨[], none⟩ [] = .ok ingestion := by decide +kernel
  have hnew : Service.new? site ⟨[], [], []⟩ ⟨[], [], []⟩ search ingestion = some s := rfl
  obtain ⟨hsleep, hline⟩ := stop_honoured hload hnew
  have hrequested : StopRequested [.start, .settleIn, .requestStop] :=
    ⟨[.start, .settleIn], [], rfl, by simp, by simp⟩
  obtain ⟨hinterval, hdelay⟩ := (hsleep _ hrequested).2.2 _ _ _ hload
  have hlong : ingestion.initialDelay.isZero = false := by decide +kernel
  rw [hlong, if_neg Bool.false_ne_true] at hdelay
  have hdue : x.service.due? = some 5 := by decide +kernel
  have hclock : x.service.clock = 0 := by decide +kernel
  have hnone : x.service.NoneDue := by
    intro _ _ d hd
    obtain rfl := Option.some.inj (hdue.symm.trans hd)
    rw [hclock]
    decide
  have hstarted : Timeline ⟨s, [], 0⟩ _ started := Timeline.refl.after trivial
  have hbegins : started.service.InOrder .settleIn := trivial
  have hx : Timeline ⟨s, [], 0⟩ _ x := hstarted.after hbegins
  obtain ⟨hpass, hstop⟩ := hline _ x hx hnone
  obtain ⟨trace, lost, htimeline, hnone, -⟩ := hstop (some 10)
  exact ⟨hload, hnew, hinterval, hdelay, ⟨rfl, trivial⟩, hpass [] .endDelay ⟨rfl, trivial⟩,
    trace, lost, htimeline, hnone⟩

/-- A wait of no length does not notice a request, and the initial delay may be one.  Then a pass
begins after the request, before any time has gone by. -/
theorem stop_not_noticed :
    let site : Site := ⟨⟨0⟩, "/", "/", ⟨0, by decide⟩⟩
    let search : SearchSettings :=
      ⟨[], none, none, "logs", true, true, true, .zero false, .zero false⟩
    let ingestion : IngestionSettings :=
      ⟨true, ["logs/application.log"], 200, .ofInt 30, .zero false⟩
    let s : Service ScriptedSink := ⟨site, search, ingestion,
      .new ⟨[], [], []⟩ ⟨"logs", 200, [], 0, 0, 0, 0⟩ ⟨[], [], []⟩, 0, 0, none, none, 0, 0⟩
    let x := Scene.run ⟨s, [], 0⟩ [.start, .requestStop]
    IngestionSettings.load ⟨[], none⟩ [("enabled", .bool true), ("initial_delay", .int 0)] =
        .ok ingestion ∧
      Service.new? site ⟨[], [], []⟩ ⟨[], [], []⟩ search ingestion = some s ∧
      StopRequested [.start, .requestStop] ∧ x.service.isActive ∧
      (x.service.sleep (waitOf ingestion.initialDelay)).1 = false ∧ x.Heeds [.wake] ∧
      .began ∈ x.service.events .wake := by
  intro site search ingestion s x
  have hdue : x.service.due? = some 0 := by decide +kernel
  have hover : ∀ d ∈ x.service.due?, d ≤ x.service.clock := by
    intro d hd
    obtain rfl := Option.some.inj (hdue.symm.trans hd)
    exact le_refl _
  exact ⟨by decide +kernel, rfl, ⟨[.start], [], rfl, by simp, by simp⟩, rfl, by decide +kernel,
    ⟨⟨⟨fun _ _ => by decide +kernel, by rw [hdue]; rfl⟩, fun _ => hover⟩, trivial⟩,
    List.mem_append_left _ List.mem_cons_self⟩

end Ingestion

end LogSearch
