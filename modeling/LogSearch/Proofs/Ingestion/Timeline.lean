import LogSearch.Proofs.Ingestion.Waking

/-!
# What is seen of the background

The background of a service is started, makes passes one after another, and comes to its end, over
and over again.  An `Event` is one of these, and a `Timeline` is a run of actions with the events
that are seen on the way and the times at which they are.  Actions are those of `Scene`; they may
come in any order in which nothing is missed (`Service.InOrder`), and passes in the foreground may
come between.

`Follows` says what can come after an event, and when.  There is nothing in it that comes after the
beginning of a pass but its end or its cancellation, and a pass begins when all of the initial delay
or of the poll interval has gone by since the event before.  `Timeline.tracks` is the statement that
every timeline is made so, and that the counters of the service are the numbers of events.  The
invariant, `Service.Tracks`, says what the background waits for after each event.
-/

namespace LogSearch.Ingestion

/-! ## Events -/

/-- What is seen of the background. -/
inductive Event where
  /-- The background is started. -/
  | started
  /-- A pass begins. -/
  | began
  /-- A pass comes to its end. -/
  | ended (failed : Bool)
  /-- A pass is cancelled. -/
  | cancelled
  /-- The background comes to its end. -/
  | left
deriving DecidableEq

/-- A pass comes to its end. -/
def Event.isEnd : Event → Bool
  | .ended _ => true
  | _ => false

/-- A pass fails. -/
def Event.isFailure : Event → Bool
  | .ended failed => failed
  | _ => false

/-- What is seen of a part of a pass when it is over. -/
def PassResult.events : PassResult → List Event
  | .finished => [.ended false]
  | .failed _ => [.ended true]
  | .suspended _ _ => []

lemma PassResult.events_eq {r : PassResult} (h : r.left? = none) :
    r.events = [.ended r.fault?.isSome] := by
  cases r with
  | finished => rfl
  | failed fault => rfl
  | suspended x paths => contradiction

namespace Service

/-- What is seen of the background in an action. -/
def events (s : Service ScriptedSink) : Action → List Event
  | .settleIn => if s.isRunning && !s.begun.isRunning then [.left] else []
  | .wake =>
    match s.task with
    | none => []
    | some task =>
      (if task.suspension?.isSome then [] else [.began]) ++ (s.passPart task).2.events ++
        if s.wake.isRunning then [] else [.left]
  | .start => if s.isRunning then [] else [.started]
  | .cancel =>
    (if s.suspension?.isSome then [.cancelled] else []) ++ if s.isRunning then [.left] else []
  | .endDelay => if s.isDelaying then [.left] else []
  | _ => []

/-- An action can come next.  What falls due in the background is not passed over, the background
does not go on before it has begun, time does not run back, a delay is not ended before a stop was
requested, and the settings stay as they are. -/
def InOrder (s : Service ScriptedSink) : Action → Prop
  | .wake => s.HasBegun ∧ s.due?.isSome
  | .setTime clock _ => s.clock ≤ clock ∧ ∀ d ∈ s.due?, clock ≤ d
  | .endDelay => s.stopRequested = some true
  | .setSettings _ _ => False
  | _ => True

end Service

/-- One scene leads to another, with what is seen of the background on the way, and when. -/
inductive Timeline (x : Scene ScriptedSink) : List (Rat × Event) → Scene ScriptedSink → Prop
  | refl : Timeline x [] x
  | after {y : Scene ScriptedSink} {trace : List (Rat × Event)} {action : Action}
      (before : Timeline x trace y) (order : y.service.InOrder action) :
      Timeline x
        (trace ++ (y.service.events action).map fun e => ((y.after action).service.clock, e))
        (y.after action)

/-- What can come after an event of the background, and when. -/
inductive Follows (i : IngestionSettings) : Rat × Event → Rat × Event → Prop
  /-- The first pass begins after the initial delay. -/
  | firstPass {t w : Rat} (delay : waitOf i.initialDelay = some w) :
      Follows i (t, .started) (t + max w 0, .began)
  /-- Each of the others begins a poll interval after the end of the one before. -/
  | nextPass {t w : Rat} {failed : Bool} (interval : waitOf i.pollInterval = some w) :
      Follows i (t, .ended failed) (t + w, .began)
  | passEnds {t t' : Rat} {failed : Bool} (time : t ≤ t') :
      Follows i (t, .began) (t', .ended failed)
  | passCancelled {t t' : Rat} (time : t ≤ t') : Follows i (t, .began) (t', .cancelled)
  /-- The background does not come to its end in the middle of a pass. -/
  | leaves {t t' : Rat} {e : Event} (time : t ≤ t') (noPass : e ≠ .began) (once : e ≠ .left) :
      Follows i (t, e) (t', .left)
  | startsAgain {t t' : Rat} (time : t ≤ t') : Follows i (t, .left) (t', .started)

namespace Timeline

variable {x y z : Scene ScriptedSink} {trace trace' : List (Rat × Event)}

lemma trans (h : Timeline x trace y) (h' : Timeline y trace' z) :
    Timeline x (trace ++ trace') z := by
  induction h' with
  | refl =>
    rw [List.append_nil]
    exact h
  | after _ horder ih =>
    rw [← List.append_assoc]
    exact ih.after horder

lemma single {action : Action} {t : Rat} (horder : x.service.InOrder action)
    (htime : (x.after action).service.clock = t) :
    Timeline x ((x.service.events action).map (t, ·)) (x.after action) := by
  have hafter := Timeline.refl.after horder
  rw [htime] at hafter
  exact hafter

lemma unseen (h : Timeline x trace y) (action : Action) (horder : y.service.InOrder action)
    (hnothing : y.service.events action = []) : Timeline x trace (y.after action) := by
  have hafter := h.after horder
  rw [hnothing, List.map_nil, List.append_nil] at hafter
  exact hafter

end Timeline

/-! ## The background is in time -/

namespace Service

variable {s s' : Service ScriptedSink}

/-- A service at rest that is started has a background that has not begun. -/
lemma exists_start_eq (h : s.task = none) : ∃ c : Collector ScriptedSink,
    s.start =
      { s with
        collector := c, stopRequested := some false, timersSet := s.timersSet + 1
        task := some (.created ⟨some s.clock, s.timersSet⟩) } := by
  rw [start, isRunning_eq_false h, if_neg Bool.false_ne_true]
  simp only [await, nextTimer, Option.map_some, Rat.add_zero]
  split
  · exact ⟨_, rfl⟩
  · exact ⟨_, rfl⟩

lemma InTime.of_idle (hpoll : isNoWait (waitOf s.ingestion.pollInterval) = false)
    (h : s.task = none) : s.InTime := by
  refine ⟨hpoll, fun t ht => ?_, fun d hd => ?_, fun hx => ?_, fun t ht => ?_, fun hx => ?_⟩
  · simp [h] at ht
  · simp [due?_eq_none h] at hd
  · simp [suspension?, h] at hx
  · simp [h] at ht
  · simp [h] at hx

lemma InTime.of_same (h : s.InTime) (hsettings : s'.ingestion = s.ingestion)
    (htask : s'.task = s.task) (hclock : s'.clock = s.clock)
    (hstarted : s.stopRequested.isSome → s'.stopRequested.isSome) : s'.InTime := by
  have hdue : s'.due? = s.due? := by rw [due?, due?, htask]
  refine ⟨?_, ?_, ?_, ?_, ?_, ?_⟩
  · rw [hsettings]
    exact h.poll
  · rw [htask]
    exact h.rests
  · rw [hdue, hclock]
    exact h.clock_le
  · rw [suspension?, htask, hdue]
    exact h.passing
  · rw [htask, hclock]
    exact h.created
  · rw [htask]
    exact fun hx => hstarted (h.started hx)

lemma InTime.start (h : s.InTime) : s.start.InTime := by
  cases htask : s.task with
  | some task =>
    rw [Service.start, if_pos (isRunning_eq_true htask)]
    exact h.of_same rfl rfl rfl id
  | none =>
    obtain ⟨c, hstart⟩ := exists_start_eq htask
    rw [hstart]
    refine ⟨h.poll, fun t ht => by simp at ht, fun d hd => ?_,
      fun hx => absurd hx Bool.false_ne_true, fun t ht => ?_, fun _ => rfl⟩
    · obtain rfl := Option.some.inj hd
      exact le_refl _
    · obtain rfl := Task.created.inj (Option.some.inj ht)
      rfl

end Service

/-- The step: an action that can come next leaves the background in time. -/
lemma Scene.inTime_after {x : Scene ScriptedSink} {action : Action} (h : x.service.InTime)
    (horder : x.service.InOrder action) : (x.after action).service.InTime := by
  cases action with
  | settleIn => exact h.begun
  | wake => exact h.wake horder.2
  | beginPass =>
    rw [after]
    split
    · exact h.of_same rfl rfl rfl id
    · exact h
  | resumePass place =>
    rw [after]
    split
    · exact h
    · exact h.of_same rfl rfl rfl id
  | cancelPass place => exact h
  | cancel =>
    obtain ⟨c, -, hcancel⟩ := x.service.exists_cancel_eq
    rw [after, hcancel]
    exact .of_idle h.poll rfl
  | start => exact h.start
  | requestStop => exact h.of_same rfl rfl rfl (fun _ => rfl)
  | endDelay =>
    rw [after]
    split
    · exact .of_idle h.poll rfl
    · exact h
  | report severity message => exact h.of_same rfl rfl rfl id
  | setTime clock timersSet =>
    refine ⟨h.poll, h.rests, horder.2, h.passing, fun t ht => ?_, h.started⟩
    -- what has been created begins before time goes by
    have htask : x.service.task = some (.created t) := ht
    have hdue : x.service.due? = some x.service.clock := by
      rw [Service.due?, htask]
      exact h.created t ht
    have hsame : clock = x.service.clock := le_antisymm (horder.2 _ hdue) horder.1
    exact (h.created t ht).trans (congrArg some hsame.symm)
  | setSettings search ingestion => exact horder.elim
  | setFiles files => exact h.of_same rfl rfl rfl id

/-- The run: so do any number of them. -/
lemma Timeline.inTime {x y : Scene ScriptedSink} {trace : List (Rat × Event)}
    (h : Timeline x trace y) (hx : x.service.InTime) : y.service.InTime := by
  induction h with
  | refl => exact hx
  | after _ horder ih => exact Scene.inTime_after ih horder

/-! ## Events follow one another -/

/-- The events up to the last one follow one another, beginning with a start, and so many of them
are ends of passes, and of passes that failed. -/
structure Recorded (i : IngestionSettings) (trace : List (Rat × Event))
    (last? : Option (Rat × Event)) (ends failures : Nat) : Prop where
  starts : ∀ e ∈ trace.head?, e.2 = .started
  follows : trace.IsChain (Follows i)
  last : trace.getLast? = last?
  ends : trace.countP (·.2.isEnd) = ends
  failures : trace.countP (·.2.isFailure) = failures

variable {i : IngestionSettings} {trace : List (Rat × Event)} {last? : Option (Rat × Event)}
  {ends failures : Nat} {e : Rat × Event}

lemma Recorded.nil : Recorded i [] none 0 0 :=
  ⟨fun e he => by simp at he, .nil, rfl, rfl, rfl⟩

lemma Recorded.append (h : Recorded i trace last? ends failures)
    (hfirst : last? = none → e.2 = .started) (hnext : ∀ before ∈ last?, Follows i before e) :
    Recorded i (trace ++ [e]) (some e) (ends + e.2.isEnd.toNat)
      (failures + e.2.isFailure.toNat) where
  starts := by
    intro e' he'
    cases trace with
    | nil =>
      obtain rfl : e = e' := by simpa using he'
      exact hfirst h.last.symm
    | cons e₁ rest => exact h.starts e' he'
  follows := by
    refine List.isChain_append.2 ⟨h.follows, .singleton e, fun before hbefore e' he' => ?_⟩
    obtain rfl : e = e' := by simpa using he'
    rw [h.last] at hbefore
    exact hnext before hbefore
  last := List.getLast?_concat
  ends := by
    rw [List.countP_append, h.ends, List.countP_singleton]
    cases e.2.isEnd <;> rfl
  failures := by
    rw [List.countP_append, h.failures, List.countP_singleton]
    cases e.2.isFailure <;> rfl

lemma Recorded.next {before : Rat × Event} (h : Recorded i trace (some before) ends failures)
    (hnext : Follows i before e) :
    Recorded i (trace ++ [e]) (some e) (ends + e.2.isEnd.toNat)
      (failures + e.2.isFailure.toNat) :=
  h.append (fun hnone => by simp at hnone) fun before' hbefore => by
    obtain rfl := Option.some.inj hbefore
    exact hnext

/-- What the background does after an event, and until when. -/
inductive Doing (i : IngestionSettings) : Option (Rat × Event) → Option Task → Prop
  | nothingYet : Doing i none none
  | nothing {t : Rat} : Doing i (some (t, .left)) none
  | created {t : Rat} {number : Nat} :
      Doing i (some (t, .started)) (some (.created ⟨some t, number⟩))
  | delaying {t : Rat} {number : Nat} (length : isNoWait (waitOf i.initialDelay) = false) :
      Doing i (some (t, .started))
        (some (.delaying ⟨(waitOf i.initialDelay).map (t + ·), number⟩))
  | passing {t : Rat} {timer : Timer} {x : Suspension} {paths : List Text} :
      Doing i (some (t, .began)) (some (.passing timer x paths))
  | resting {t : Rat} {failed : Bool} {number : Nat} :
      Doing i (some (t, .ended failed))
        (some (.resting ⟨(waitOf i.pollInterval).map (t + ·), number⟩))

/-- The service is where the events have brought it, and has counted the ends of passes. -/
structure Service.Tracks (i : IngestionSettings) (trace : List (Rat × Event))
    (last? : Option (Rat × Event)) (s : Service ScriptedSink) : Prop where
  settings : s.ingestion = i
  recorded : Recorded i trace last? s.ticks s.failedTicks
  doing : Doing i last? s.task
  past : ∀ e ∈ last?, e.1 ≤ s.clock

namespace Service

variable {s s' : Service ScriptedSink} {task : Task} {d : Rat}

lemma Tracks.of_same (h : s.Tracks i trace last?) (hsettings : s'.ingestion = s.ingestion)
    (hticks : s'.ticks = s.ticks) (hfailed : s'.failedTicks = s.failedTicks)
    (htask : s'.task = s.task) (hclock : s.clock ≤ s'.clock) : s'.Tracks i trace last? :=
  ⟨hsettings.trans h.settings, by rw [hticks, hfailed]; exact h.recorded, htask ▸ h.doing,
    fun e he => (h.past e he).trans hclock⟩

/-- When the background goes on, a pass is in progress, or begins just when it may. -/
lemma Tracks.exists_began (h : s.Tracks i trace last?) (hin : s.InTime) (hbegun : s.HasBegun)
    (htask : s.task = some task) (hdue : task.timer.due = some d) :
    ∃ t ≤ d, Recorded i
      (trace ++ (if task.suspension?.isSome then [] else [.began]).map fun e => (d, e))
      (some (t, .began)) s.ticks s.failedTicks := by
  obtain ⟨hsettings, hrecorded, hdoing, hpast⟩ := h
  rw [htask] at hdoing
  have hclock : s.clock ≤ d := hin.clock_le d (by rw [due?, htask]; exact hdue)
  cases hdoing with
  | @created t =>
    obtain rfl := Option.some.inj hdue
    have hwait : isNoWait (waitOf i.initialDelay) := hsettings ▸ hbegun _ htask
    obtain ⟨w, hw, hnone⟩ := exists_of_isNoWait hwait
    have hbegan : Follows i (t, .started) (t + max w 0, .began) := .firstPass hw
    rw [max_eq_right hnone, add_zero] at hbegan
    exact ⟨_, le_refl _, hrecorded.next hbegan⟩
  | @delaying t number hlength =>
    obtain ⟨w, hw, rfl⟩ := Option.map_eq_some_iff.1 hdue
    have hbegan : Follows i (t, .started) (t + max w 0, .began) := .firstPass hw
    rw [max_eq_left (le_of_lt (isNoWait_eq_false_iff.1 hlength w hw))] at hbegan
    exact ⟨_, le_refl _, hrecorded.next hbegan⟩
  | resting =>
    obtain ⟨w, hw, rfl⟩ := Option.map_eq_some_iff.1 hdue
    exact ⟨_, le_refl _, hrecorded.next (.nextPass hw)⟩
  | @passing t =>
    refine ⟨t, (hpast _ rfl).trans hclock, ?_⟩
    rw [Task.suspension?, Option.isSome_some, if_pos rfl, List.map_nil, List.append_nil]
    exact hrecorded

lemma Tracks.wake (h : s.Tracks i trace last?) (hin : s.InTime) (horder : s.InOrder .wake) :
    ∃ last?', s.wake.Tracks i
      (trace ++ (s.events .wake).map fun e => (s.wake.clock, e)) last?' := by
  obtain ⟨d, hd⟩ := Option.isSome_iff_exists.1 horder.2
  obtain ⟨task, htask, htimer, hwoken⟩ := hin.exists_woken hd
  obtain ⟨t, htime, hbegan⟩ := h.exists_began hin horder.1 htask htimer
  have hevents : s.events .wake =
      (if task.suspension?.isSome then [] else [.began]) ++ (s.passPart task).2.events ++
        if s.wake.isRunning then [] else [.left] := by
    simp only [events, htask]
  rw [hevents, hwoken.clock_eq]
  generalize (if task.suspension?.isSome then [] else [Event.began]) = began at hbegan
  have hended (failed : Bool) : Recorded i
      (trace ++ began.map (fun e => (d, e)) ++ [(d, .ended failed)]) (some (d, .ended failed))
      (s.ticks + 1) (s.failedTicks + failed.toNat) := hbegan.next (.passEnds htime)
  have hleft (failed : Bool) : Recorded i
      (trace ++ began.map (fun e => (d, e)) ++ [(d, .ended failed)] ++ [(d, .left)])
      (some (d, .left)) (s.ticks + 1) (s.failedTicks + failed.toNat) :=
    (hended failed).next (.leaves (le_refl d) (by simp) (by simp))
  generalize s.wake = s' at hwoken
  cases hwoken with
  | waits hpart =>
    rw [hpart]
    refine ⟨some (t, .began), h.settings, ?_, .passing, fun e he => ?_⟩
    · simpa [PassResult.events, isRunning] using hbegan
    · obtain rfl := Option.some.inj he
      exact htime
  | @rests c c' result hpart hend =>
    rw [hpart, PassResult.events_eq hend]
    generalize result.fault?.isSome = failed
    refine ⟨some (d, .ended failed), h.settings, ?_, ?_, fun e he => ?_⟩
    · simpa [isRunning] using hended failed
    · simp only [h.settings]
      exact .resting
    · obtain rfl := Option.some.inj he
      exact le_refl d
  | @ends c c' result hpart hend =>
    rw [hpart, PassResult.events_eq hend]
    generalize result.fault?.isSome = failed
    refine ⟨some (d, .left), h.settings, ?_, .nothing, fun e he => ?_⟩
    · simpa [isRunning] using hleft failed
    · obtain rfl := Option.some.inj he
      exact le_refl d

lemma Tracks.left (h : s.Tracks i trace last?) (hpass : s.suspension? = none) :
    ∃ last?', ({ s with task := none } : Service ScriptedSink).Tracks i
      (trace ++ if s.isRunning then [(s.clock, .left)] else []) last?' := by
  cases htask : s.task with
  | none =>
    rw [isRunning_eq_false htask, if_neg Bool.false_ne_true, List.append_nil]
    exact ⟨last?, h.of_same rfl rfl rfl htask.symm (le_refl _)⟩
  | some task =>
    obtain ⟨hsettings, hrecorded, hdoing, hpast⟩ := h
    have hclosed : Recorded i (trace ++ [(s.clock, .left)]) (some (s.clock, .left)) s.ticks
        s.failedTicks := by
      rw [htask] at hdoing
      cases hdoing with
      | created => exact hrecorded.next (.leaves (hpast _ rfl) (by simp) (by simp))
      | delaying => exact hrecorded.next (.leaves (hpast _ rfl) (by simp) (by simp))
      | resting => exact hrecorded.next (.leaves (hpast _ rfl) (by simp) (by simp))
      | passing => simp [suspension?, htask, Task.suspension?] at hpass
    rw [isRunning_eq_true htask, if_pos rfl]
    refine ⟨_, hsettings, hclosed, .nothing, fun e he => ?_⟩
    obtain rfl := Option.some.inj he
    exact le_refl _

/-- The background is cancelled, in the middle of a pass or outside of one. -/
lemma Tracks.cancel (h : s.Tracks i trace last?) :
    ∃ last?', s.cancel.Tracks i
      (trace ++ (s.events .cancel).map fun e => (s.cancel.clock, e)) last?' := by
  obtain ⟨c, -, hcancel⟩ := s.exists_cancel_eq
  rw [hcancel]
  cases hpass : s.suspension? with
  | none =>
    obtain ⟨last?', hleft⟩ := h.left hpass
    have hevents : (s.events .cancel).map (fun e => (s.clock, e)) =
        if s.isRunning then [(s.clock, .left)] else [] := by
      simp only [events, hpass]
      cases s.isRunning <;> rfl
    rw [hevents]
    exact ⟨last?', hleft.of_same rfl rfl rfl rfl (le_refl _)⟩
  | some x =>
    obtain ⟨hsettings, hrecorded, hdoing, hpast⟩ := h
    obtain ⟨task, htask, hx⟩ := Option.bind_eq_some_iff.1 hpass
    have hevents : s.events .cancel = [.cancelled, .left] := by
      simp [events, hpass, isRunning_eq_true htask]
    rw [htask] at hdoing
    cases hdoing with
    | created => contradiction
    | delaying => contradiction
    | resting => contradiction
    | passing =>
      have hcancelled := hrecorded.next (.passCancelled (hpast _ rfl))
      have hclosed := hcancelled.next (.leaves (le_refl s.clock) (by simp) (by simp))
      rw [hevents]
      refine ⟨some (s.clock, .left), hsettings, ?_, .nothing, fun e he => ?_⟩
      · rw [List.append_assoc] at hclosed
        exact hclosed
      · obtain rfl := Option.some.inj he
        exact le_refl _

lemma Tracks.begun (h : s.Tracks i trace last?) (hin : s.InTime) :
    ∃ last?', s.begun.Tracks i
      (trace ++ (s.events .settleIn).map fun e => (s.begun.clock, e)) last?' := by
  have hbegun := begun_spec s
  simp only [events]
  generalize s.begun = s' at hbegun
  cases hbegun with
  | stays => exact ⟨last?, by simpa using h⟩
  | @delays t hcreated hlength =>
    have hevents : (s.isRunning && !(some (Task.delaying
        ⟨(waitOf s.ingestion.initialDelay).map (s.clock + ·), s.timersSet⟩)).isSome) = false := by
      rw [Option.isSome_some, Bool.not_true, Bool.and_false]
    obtain ⟨hsettings, hrecorded, hdoing, hpast⟩ := h
    have hnow := hin.created t hcreated
    rw [hcreated] at hdoing
    cases hdoing with
    | created =>
      obtain rfl := Option.some.inj hnow
      refine ⟨some (s.clock, .started), hsettings, ?_, ?_, hpast⟩
      · simpa [isRunning] using hrecorded
      · simp only [hsettings] at hlength ⊢
        exact .delaying hlength
  | leaves hcreated =>
    obtain ⟨last?', hleft⟩ := h.left (by rw [suspension?, hcreated]; rfl)
    have hrunning : s.isRunning := isRunning_eq_true hcreated
    refine ⟨last?', ?_⟩
    simpa [hrunning, isRunning_eq_false] using hleft

lemma Tracks.start (h : s.Tracks i trace last?) :
    ∃ last?', s.start.Tracks i
      (trace ++ (s.events .start).map fun e => (s.start.clock, e)) last?' := by
  cases htask : s.task with
  | some task =>
    have hrunning : s.isRunning := isRunning_eq_true htask
    simp only [events]
    rw [Service.start, if_pos hrunning, if_pos hrunning, List.map_nil, List.append_nil]
    exact ⟨last?, h.of_same rfl rfl rfl rfl (le_refl _)⟩
  | none =>
    obtain ⟨hsettings, hrecorded, hdoing, hpast⟩ := h
    obtain ⟨c, hstart⟩ := exists_start_eq htask
    have hevents : s.events .start = [.started] := by simp [events, isRunning_eq_false htask]
    rw [hstart, hevents]
    refine ⟨some (s.clock, .started), hsettings, ?_, ?_, fun e he => ?_⟩
    · rw [htask] at hdoing
      cases hdoing with
      | nothingYet => exact hrecorded.append (fun _ => rfl) fun before hbefore => by simp at hbefore
      | nothing => exact hrecorded.next (.startsAgain (hpast _ rfl))
    · exact .created
    · obtain rfl := Option.some.inj he
      exact le_refl _

end Service

/-- The step: every action that can come next brings the service to where its events are. -/
lemma Scene.tracks_after {x : Scene ScriptedSink} {action : Action}
    (h : x.service.Tracks i trace last?) (hin : x.service.InTime)
    (horder : x.service.InOrder action) :
    ∃ last?', (x.after action).service.Tracks i
      (trace ++ (x.service.events action).map fun e => ((x.after action).service.clock, e))
      last?' := by
  have hunseen {s' : Service ScriptedSink} (hs' : s'.Tracks i trace last?) :
      ∃ last?', s'.Tracks i (trace ++ []) last?' := ⟨last?, by rw [List.append_nil]; exact hs'⟩
  cases action with
  | settleIn => exact h.begun hin
  | wake => exact h.wake hin horder
  | beginPass =>
    rw [after]
    split
    · exact hunseen (h.of_same rfl rfl rfl rfl (le_refl _))
    · exact hunseen h
  | resumePass place =>
    rw [after]
    split
    · exact hunseen h
    · exact hunseen (h.of_same rfl rfl rfl rfl (le_refl _))
  | cancelPass place => exact hunseen h
  | cancel => exact h.cancel
  | start => exact h.start
  | requestStop => exact hunseen (h.of_same rfl rfl rfl rfl (le_refl _))
  | endDelay =>
    rw [after, Service.events]
    cases hdelay : x.service.isDelaying with
    | true =>
      obtain ⟨last?', hleft⟩ := h.left (Service.suspension?_of_isDelaying hdelay)
      rw [Service.isRunning_of_isDelaying hdelay] at hleft
      exact ⟨last?', hleft⟩
    | false => exact hunseen h
  | report severity message => exact hunseen (h.of_same rfl rfl rfl rfl (le_refl _))
  | setTime clock timersSet => exact hunseen (h.of_same rfl rfl rfl rfl horder.1)
  | setSettings search ingestion => exact horder.elim
  | setFiles files => exact hunseen (h.of_same rfl rfl rfl rfl (le_refl _))

/-- The run: so does every timeline of a service that has not been started. -/
lemma Timeline.tracks {x y : Scene ScriptedSink} (h : Timeline x trace y)
    (hx : x.service.Tracks x.service.ingestion [] none) (hin : x.service.InTime) :
    ∃ last?, y.service.Tracks x.service.ingestion trace last? := by
  induction h with
  | refl => exact ⟨none, hx⟩
  | after hbefore horder ih =>
    obtain ⟨last?, htracks⟩ := ih
    exact Scene.tracks_after htracks (hbefore.inTime hin) horder

end LogSearch.Ingestion
