import LogSearch.Proofs.Ingestion.Scenes
import LogSearch.Proofs.Ingestion.Stops
import LogSearch.Validation.Lax
import Mathlib.Data.Rat.Floor
import Mathlib.Logic.Relation
import Mathlib.Tactic.Linarith

/-!
# How the background goes on

Each time the background of a service goes on, it makes a part of a pass.  Then it waits: for an
outcome if the pass is not at its end, and otherwise for the next pass, unless a stop was requested.
`Service.woken` says this of `Service.wake`, and everything else about the background is derived
from it.

Going on comes to an end.  Every outcome that is waited for uses up an answer of the script
(`Collector.Spends`), and every rest takes some of the time that is left.  `Service.wakesLeft`
counts both, and becomes less each time.  So the service has done all that falls due before a moment
when `Service.runTo` is at its end (`Service.InTime.runTo`), and nothing is left of a pass when
`Service.runOut` is, if a stop was requested (`Service.InTime.runOut`).
-/

namespace LogSearch.Ingestion

/-! ## Answers are used up -/

namespace Collector

/-- A part of a pass has come from the collector `c` to `c'` and to what it waits for now.  That is
one of the answers of the script, and takes some time. -/
structure Spends (c c' : Collector ScriptedSink) (s? : Option Suspension) : Prop where
  script_le : c'.sink.script.length + s?.toList.length ≤ c.sink.script.length
  delay_pos : ∀ s ∈ s?, 0 < s.delay

variable {c c' c₁ : Collector ScriptedSink} {fault? : Option PassFault} {s? : Option Suspension}
  {site : Site} {readable : Bytes → Prop}

lemma Spends.of_sink (h : c'.sink = c.sink) : Spends c c' none :=
  ⟨by rw [h]; exact Nat.le_refl _, fun s hs => by simp at hs⟩

lemma Spends.trans (h : Spends c c₁ none) (h' : Spends c₁ c' s?) : Spends c c' s? :=
  ⟨Nat.le_trans h'.script_le (Nat.le_trans (Nat.le_add_right _ _) h.script_le), h'.delay_pos⟩

lemma Sends.spends (h : Sends c c' fault? s?) : Spends c c' s? := by
  have hscript : c.dispatch.2.2.sink.script = c.sink.script.tail := by
    rw [dispatch]
    exact ScriptedSink.script_bulk
  have hsettle : c.settleAtOnce.1.sink = c.dispatch.2.2.sink := rfl
  have hbooked : Spends c c.settleAtOnce.1 none := by
    refine ⟨?_, fun s hs => by simp at hs⟩
    rw [hsettle, hscript, List.length_tail]
    exact Nat.sub_le _ 1
  cases h with
  | booked _ h => rwa [h] at hbooked
  | unbooked _ h => rwa [h] at hbooked
  | late hlate _ _ hdelay =>
    have hpos : 0 < c.sink.script.length :=
      script_pos_of_isLate c.outbox.index c.outbox.pending hlate
    refine ⟨?_, fun s hs => ?_⟩
    · simp only [hscript, List.length_tail, Option.toList_some, List.length_singleton]
      omega
    · obtain rfl := Option.some.inj hs
      rw [hdelay]
      exact of_decide_eq_true hlate

lemma Step.spends (h : Step site readable c c' fault? s?) : Spends c c' s? := by
  cases h with
  | note _ _ hsink => exact .of_sink hsink
  | stop => exact .of_sink rfl
  | discard => exact .of_sink rfl
  | refuse _ haccept => exact .of_sink (by rw [eq_of_accept_error haccept])
  | skip haccept => exact .of_sink (by rw [eq_of_accept_none haccept])
  | take haccept => exact .of_sink (by rw [eq_of_accept_some haccept])
  | send hsend => exact hsend.spends
  | fill haccept hsend =>
    have hsink := congrArg Collector.sink (eq_of_accept_some haccept)
    exact Spends.trans (.of_sink hsink) hsend.spends

/-- A walk uses up an answer for every batch. -/
lemma Walk.spends (h : Walk site readable c c' fault? s?) : Spends c c' s? := by
  induction h with
  | nothing => exact .of_sink rfl
  | last h => exact h.spends
  | next h _ ih => exact h.spends.trans ih

lemma spends_pass (site : Site) (c : Collector ScriptedSink) (paths : List Text) :
    Spends c (c.pass site paths).1 (c.pass site paths).2.suspension? :=
  (walk_pass site c paths fun _ _ => trivial).spends

lemma spends_resumePass (site : Site) (c : Collector ScriptedSink) (s : Suspension)
    (paths : List Text) :
    Spends c (c.resumePass site s paths).1 (c.resumePass site s paths).2.suspension? := by
  have hsettle : Spends c (c.settle s.batch.length s.outcome).1 none := .of_sink rfl
  exact hsettle.trans
    (walk_resumePass site c s paths (fun _ _ => trivial) fun _ _ => trivial).spends

end Collector

/-! ## Waits -/

lemma isNoWait_eq_false_iff {wait : Option Rat} : isNoWait wait = false ↔ ∀ w ∈ wait, 0 < w := by
  cases wait with
  | none => simp [isNoWait]
  | some w => simp [isNoWait]

lemma exists_of_isNoWait {wait : Option Rat} (h : isNoWait wait) : ∃ w, wait = some w ∧ w ≤ 0 := by
  cases wait with
  | none => exact absurd h Bool.false_ne_true
  | some w => exact ⟨w, rfl, of_decide_eq_true h⟩

lemma isNoWait_waitOf {x : Binary64} (h : Validation.isAboveZero x) :
    isNoWait (waitOf x) = false := by
  rw [isNoWait_eq_false_iff]
  intro w hw
  cases x with
  | nan => simp [waitOf] at hw
  | infinite negative =>
    cases negative <;> simp_all [waitOf, Validation.isAboveZero, Binary64.isNegative]
  | finite negative m p hm =>
    obtain ⟨rfl, hpos⟩ : negative = false ∧ m ≠ 0 := by
      simp only [Validation.isAboveZero, Binary64.isNegative, Binary64.isZero] at h
      grind
    have hden : (Binary64.ratio m p).2 ≠ 0 := by
      rw [Binary64.ratio]
      split
      · exact Nat.pos_iff_ne_zero.1 (Nat.pow_pos (by decide))
      · exact Nat.one_ne_zero
    have hnum : 0 < (Binary64.ratio m p).1 := by
      rw [Binary64.ratio]
      split
      · exact Nat.pos_of_ne_zero hpos
      · exact Nat.mul_pos (Nat.pos_of_ne_zero hpos) (Nat.pow_pos (by decide))
    obtain rfl := Option.some.inj hw
    exact Rat.mkRat_pos (Int.natCast_pos.2 hnum) hden

/-- The number of rests that fit between two times. -/
def restsBetween (wait : Option Rat) (time moment : Rat) : Nat :=
  match wait with
  | none => 0
  | some w => if 0 < w then ((moment - time) / w).floor.toNat else 0

lemma restsBetween_le {wait : Option Rat} {time time' moment : Rat} (h : time ≤ time') :
    restsBetween wait time' moment ≤ restsBetween wait time moment := by
  cases wait with
  | none => exact Nat.le_refl _
  | some w =>
    simp only [restsBetween]
    split
    next hw =>
      have hless : (moment - time') / w ≤ (moment - time) / w := by gcongr
      exact Int.toNat_le_toNat (Rat.floor_monotone hless)
    next => exact Nat.le_refl _

/-- A rest that is over by the moment is one less to come. -/
lemma restsBetween_add {w time moment : Rat} (hw : 0 < w) (h : time + w ≤ moment) :
    restsBetween (some w) (time + w) moment + 1 = restsBetween (some w) time moment := by
  have hsplit : (moment - time) / w = (moment - (time + w)) / w + 1 := by
    field_simp
    ring
  have hleft : 0 ≤ ((moment - (time + w)) / w).floor := by
    have hrest : 0 ≤ moment - (time + w) := by linarith
    refine Rat.le_floor_iff.2 ?_
    positivity
  simp only [restsBetween, if_pos hw]
  rw [hsplit, Rat.floor_add_one]
  omega

namespace Service

variable {s s' : Service ScriptedSink} {task : Task} {d moment : Rat} {number : Option Nat}
  {fuel : Nat}

/-! ## The background goes on -/

/-- When the background goes on, if at all. -/
def due? (s : Service ScriptedSink) : Option Rat := s.task.bind fun task => task.timer.due

lemma isRunning_eq_true (h : s.task = some task) : s.isRunning = true := by
  rw [isRunning, h]
  rfl

lemma due?_eq_none (h : s.task = none) : s.due? = none := by
  rw [due?, h]
  rfl

lemma isRunning_of_suspension? (h : s.suspension?.isSome) : s.isRunning := by
  obtain ⟨x, hx⟩ := Option.isSome_iff_exists.1 h
  obtain ⟨task, htask, -⟩ := Option.bind_eq_some_iff.1 hx
  exact isRunning_eq_true htask

lemma isRunning_of_isDelaying (h : s.isDelaying) : s.isRunning := by
  cases htask : s.task with
  | none =>
    rw [isDelaying, htask] at h
    exact absurd h Bool.false_ne_true
  | some task => exact isRunning_eq_true htask

/-! ### Beginning -/

/-- The background has begun, or it was created without a delay before its first pass, and goes on
with that. -/
def HasBegun (s : Service ScriptedSink) : Prop :=
  ∀ t, s.task = some (.created t) → isNoWait (waitOf s.ingestion.initialDelay)

/-- What the service comes to when the background begins. -/
inductive Begun (s : Service ScriptedSink) : Service ScriptedSink → Prop
  | stays (begun : s.HasBegun) : Begun s s
  /-- It waits before its first pass. -/
  | delays {t : Timer} (created : s.task = some (.created t))
      (length : isNoWait (waitOf s.ingestion.initialDelay) = false)
      (goesOn : s.stopRequested ≠ some true) :
      Begun s
        { s with
          timersSet := s.timersSet + 1
          task := some (.delaying
            ⟨(waitOf s.ingestion.initialDelay).map (s.clock + ·), s.timersSet⟩) }
  /-- It does not wait, because a stop was requested. -/
  | leaves {t : Timer} (created : s.task = some (.created t))
      (length : isNoWait (waitOf s.ingestion.initialDelay) = false)
      (stops : s.stopRequested = some true) : Begun s { s with task := none }

lemma hasBegun_of_ne (h : ∀ t, s.task ≠ some (.created t)) : s.HasBegun :=
  fun t ht => absurd ht (h t)

lemma HasBegun.begun_eq (h : s.HasBegun) : s.begun = s := by
  rw [begun]
  split
  next t htask => rw [if_pos (h t htask)]
  next => rfl

lemma begun_spec (s : Service ScriptedSink) : Begun s s.begun := by
  rw [begun]
  split
  next t htask =>
    simp only
    split
    next hwait => exact .stays fun _ _ => hwait
    next hwait =>
      rw [Bool.not_eq_true] at hwait
      split
      next hstop => exact .leaves htask hwait hstop
      next hstop => exact .delays htask hwait hstop
  next hbegun => exact .stays (hasBegun_of_ne hbegun)

lemma hasBegun_begun (s : Service ScriptedSink) : s.begun.HasBegun := by
  have h := begun_spec s
  generalize s.begun = s' at h
  cases h with
  | stays hbegun => exact hbegun
  | delays => exact hasBegun_of_ne fun t ht => by simp at ht
  | leaves => exact hasBegun_of_ne fun t ht => by simp at ht

lemma Begun.clock_eq (h : Begun s s') : s'.clock = s.clock := by
  cases h <;> rfl

/-! ### Going on -/

/-- The part of a pass that is made when what is waited for is there. -/
def passPart (s : Service ScriptedSink) : Task → Collector ScriptedSink × PassResult
  | .created _ | .delaying _ | .resting _ | .turning _ => s.makePass
  | .passing _ x paths => s.collector.resumePass s.site x paths

lemma spends_passPart (s : Service ScriptedSink) (task : Task) :
    s.collector.Spends (s.passPart task).1 (s.passPart task).2.suspension? := by
  have hmake : s.collector.Spends s.makePass.1 s.makePass.2.suspension? := by
    rw [makePass]
    split
    · exact Collector.spends_pass ..
    · exact .of_sink rfl
  cases task with
  | passing timer x paths => exact Collector.spends_resumePass ..
  | created | delaying | resting | turning => exact hmake

/-- What the service comes to when its background goes on at a time. -/
inductive Woken (s : Service ScriptedSink) (task : Task) (d : Rat) : Service ScriptedSink → Prop
  /-- The pass waits for an outcome. -/
  | waits {c : Collector ScriptedSink} {x : Suspension} {paths : List Text}
      (part : s.passPart task = (c, .suspended x paths)) :
      Woken s task d
        { s with
          collector := c, clock := d, timersSet := s.timersSet + 1
          task := some (.passing ⟨some (d + x.delay), s.timersSet⟩ x paths) }
  /-- The pass is at its end, and the service rests. -/
  | rests {c c' : Collector ScriptedSink} {result : PassResult}
      (part : s.passPart task = (c, result)) (atEnd : result.left? = none)
      (sink : c'.sink = c.sink) (goesOn : s.stopRequested ≠ some true) :
      Woken s task d
        { s with
          collector := c', clock := d, timersSet := s.timersSet + 1, ticks := s.ticks + 1
          failedTicks := s.failedTicks + result.fault?.isSome.toNat
          task := some (.resting ⟨(waitOf s.ingestion.pollInterval).map (d + ·), s.timersSet⟩) }
  /-- The pass is at its end, and so is the background, because a stop was requested. -/
  | ends {c c' : Collector ScriptedSink} {result : PassResult}
      (part : s.passPart task = (c, result)) (atEnd : result.left? = none)
      (sink : c'.sink = c.sink) (stops : s.stopRequested = some true) :
      Woken s task d
        { s with
          collector := c', clock := d, ticks := s.ticks + 1
          failedTicks := s.failedTicks + result.fault?.isSome.toNat
          task := none }

lemma Woken.clock_eq (h : Woken s task d s') : s'.clock = d := by
  cases h <;> rfl

/-- Where a rest has some length, a service of which a stop was requested does not rest. -/
lemma rest_eq (hpoll : isNoWait (waitOf s.ingestion.pollInterval) = false) :
    s.rest =
      if s.stopRequested = some true then { s with task := none }
      else s.await (waitOf s.ingestion.pollInterval) .resting := by
  simp only [rest, hpoll, Bool.false_eq_true, if_false]

/-- The step: every time the background goes on it comes to one of the three. -/
lemma woken (hpoll : isNoWait (waitOf s.ingestion.pollInterval) = false)
    (htask : s.task = some task) (hdue : task.timer.due = some d) : Woken s task d s.wake := by
  have hwake : s.wake = ({ s with clock := d } : Service ScriptedSink).afterPass
      (s.passPart task) := by
    rw [wake, htask]
    simp only [hdue, Option.getD_some]
    cases task <;> rfl
  rw [hwake]
  rcases hpart : s.passPart task with ⟨c, _ | fault | ⟨x, paths⟩⟩
  · rw [afterPass, rest_eq]
    · split
      next hstop => exact .ends hpart rfl rfl hstop
      next hstop => exact .rests hpart rfl rfl hstop
    · exact hpoll
  · simp only [afterPass]
    rw [rest_eq]
    · split
      next hstop => exact .ends hpart rfl rfl hstop
      next hstop => exact .rests hpart rfl rfl hstop
    · exact hpoll
  · exact .waits hpart

lemma Woken.hasBegun (h : Woken s task d s') : s'.HasBegun := by
  cases h <;> exact hasBegun_of_ne fun t ht => by simp at ht

/-- The background goes on once. -/
def GoesOn (s s' : Service ScriptedSink) : Prop := s.HasBegun ∧ s.due?.isSome ∧ s' = s.wake

/-- Nothing in the background is overdue.  Every rest has some length, so that no pass comes at once
after another one, an outcome is not waited for for ever, what has been created begins at once, and
there is no background before the first start. -/
structure InTime (s : Service ScriptedSink) : Prop where
  poll : isNoWait (waitOf s.ingestion.pollInterval) = false
  rests : ∀ t, s.task ≠ some (.turning t)
  clock_le : ∀ d ∈ s.due?, s.clock ≤ d
  passing : s.suspension?.isSome → s.due?.isSome
  created : ∀ t, s.task = some (.created t) → t.due = some s.clock
  started : s.task.isSome → s.stopRequested.isSome

lemma InTime.exists_woken (h : s.InTime) (hdue : s.due? = some d) :
    ∃ task, s.task = some task ∧ task.timer.due = some d ∧ Woken s task d s.wake := by
  obtain ⟨task, htask, hd⟩ := Option.bind_eq_some_iff.1 hdue
  exact ⟨task, htask, hd, woken h.poll htask hd⟩

lemma InTime.wake (h : s.InTime) (hdue : s.due?.isSome) : s.wake.InTime := by
  obtain ⟨d, hd⟩ := Option.isSome_iff_exists.1 hdue
  obtain ⟨task, htask, -, hwoken⟩ := h.exists_woken hd
  have hstarted : s.stopRequested.isSome := h.started (by rw [htask]; rfl)
  generalize s.wake = s' at hwoken
  cases hwoken with
  | @waits c x paths hpart =>
    have hspends := spends_passPart s task
    rw [hpart] at hspends
    refine ⟨h.poll, fun t ht => by simp at ht, fun d' hd' => ?_, fun _ => rfl,
      fun t ht => by simp at ht, fun _ => hstarted⟩
    obtain rfl := Option.some.inj hd'
    have hdelay := hspends.delay_pos x rfl
    simp only
    linarith
  | rests =>
    refine ⟨h.poll, fun t ht => by simp at ht, fun d' hd' => ?_,
      fun hx => absurd hx Bool.false_ne_true, fun t ht => by simp at ht, fun _ => hstarted⟩
    obtain ⟨w, hw, rfl⟩ := Option.map_eq_some_iff.1 hd'
    have hpos := isNoWait_eq_false_iff.1 h.poll w hw
    simp only
    linarith
  | ends =>
    exact ⟨h.poll, fun t ht => by simp at ht, fun d' hd' => by simp [due?] at hd',
      fun hx => absurd hx Bool.false_ne_true, fun t ht => by simp at ht,
      fun hx => absurd hx Bool.false_ne_true⟩

lemma InTime.begun (h : s.InTime) : s.begun.InTime := by
  have hbegun := begun_spec s
  generalize s.begun = s' at hbegun
  cases hbegun with
  | stays => exact h
  | delays hcreated hlength =>
    refine ⟨h.poll, fun t ht => by simp at ht, fun d hd => ?_,
      fun hx => absurd hx Bool.false_ne_true, fun t ht => by simp at ht,
      fun _ => h.started (by rw [hcreated]; rfl)⟩
    obtain ⟨w, hw, rfl⟩ := Option.map_eq_some_iff.1 hd
    have hpos := isNoWait_eq_false_iff.1 hlength w hw
    simp only
    linarith
  | leaves =>
    exact ⟨h.poll, fun t ht => by simp at ht, fun d hd => by simp [due?] at hd,
      fun hx => absurd hx Bool.false_ne_true, fun t ht => by simp at ht,
      fun hx => absurd hx Bool.false_ne_true⟩

/-- However often the background goes on, it is in time. -/
lemma InTime.goesOn (h : s.InTime) (h' : Relation.ReflTransGen GoesOn s s') : s'.InTime := by
  induction h' with
  | refl => exact h
  | tail _ hlast ih =>
    obtain ⟨-, hdue, rfl⟩ := hlast
    exact ih.wake hdue

lemma InTime.clock_mono (h : s.InTime) (h' : Relation.ReflTransGen GoesOn s s') :
    s.clock ≤ s'.clock := by
  induction h' with
  | refl => exact le_refl _
  | tail hbefore hlast ih =>
    obtain ⟨-, hdue, rfl⟩ := hlast
    obtain ⟨d, hd⟩ := Option.isSome_iff_exists.1 hdue
    have hin := h.goesOn hbefore
    obtain ⟨_, -, -, hwoken⟩ := hin.exists_woken hd
    rw [hwoken.clock_eq]
    exact ih.trans (hin.clock_le d hd)

/-! ## It does so only so often -/

/-- How often the background can go on up to a moment, if it does so at the time `d` next: then,
after every rest and for every answer. -/
def wakesLeft (s : Service ScriptedSink) (moment d : Rat) : Nat :=
  restsBetween (waitOf s.ingestion.pollInterval) d moment + s.collector.sink.script.length + 1

lemma InTime.wakesLeft_wake (h : s.InTime) (hdue : s.due? = some d) {d' : Rat}
    (hdue' : s.wake.due? = some d') (hmoment : d' ≤ moment) :
    s.wake.wakesLeft moment d' < s.wakesLeft moment d := by
  obtain ⟨task, -, -, hwoken⟩ := h.exists_woken hdue
  have hspends := spends_passPart s task
  generalize s.wake = s' at hwoken hdue'
  cases hwoken with
  | @waits c x paths hpart =>
    rw [hpart] at hspends
    obtain rfl := Option.some.inj hdue'
    have hdelay := hspends.delay_pos x rfl
    have hscript := hspends.script_le
    have hrests : restsBetween (waitOf s.ingestion.pollInterval) (d + x.delay) moment ≤
      restsBetween (waitOf s.ingestion.pollInterval) d moment := restsBetween_le (by linarith)
    simp only [PassResult.suspension?, Option.toList_some, List.length_singleton] at hscript
    simp only [wakesLeft]
    omega
  | rests hpart _ hsink =>
    rw [hpart] at hspends
    obtain ⟨w, hw, rfl⟩ := Option.map_eq_some_iff.1 hdue'
    have hpos := isNoWait_eq_false_iff.1 h.poll w hw
    have hscript := Nat.le_of_add_right_le hspends.script_le
    have hrests := restsBetween_add hpos hmoment
    simp only [wakesLeft, hsink, hw]
    simp only at hscript
    omega
  | ends => simp [due?] at hdue'

lemma le_of_isBefore {t : Timer} (h : t.isBefore moment number) :
    ∃ d, t.due = some d ∧ d ≤ moment := by
  rw [Timer.isBefore] at h
  split at h
  next => contradiction
  next d hd =>
    refine ⟨d, hd, ?_⟩
    rw [Bool.or_eq_true, Bool.and_eq_true, decide_eq_true_eq, beq_iff_eq] at h
    exact h.elim le_of_lt fun h => le_of_eq h.1

lemma ge_of_not_isBefore {t : Timer} (h : ¬ t.isBefore moment number) (hd : t.due = some d) :
    moment ≤ d := by
  rw [Timer.isBefore, hd] at h
  simp only [Bool.or_eq_true, decide_eq_true_eq, not_or] at h
  exact not_lt.1 h.1

/-- What `runUntil` does is that the background goes on.  It neither does so past the moment, nor,
if there is enough fuel, leaves anything that falls due before it. -/
lemma InTime.runUntil (h : s.InTime) (hbegun : s.HasBegun)
    (hfuel : ∀ d ∈ s.due?, d ≤ moment → s.wakesLeft moment d ≤ fuel) :
    Relation.ReflTransGen GoesOn s (runUntil moment number fuel s) ∧
      (runUntil moment number fuel s).clock ≤ max s.clock moment ∧
      ∀ d ∈ (runUntil moment number fuel s).due?, moment ≤ d := by
  induction fuel generalizing s with
  | zero =>
    refine ⟨.refl, le_max_left _ _, fun d hd => ?_⟩
    by_contra hless
    have hleft := hfuel d hd (le_of_not_ge hless)
    simp [wakesLeft] at hleft
  | succ fuel ih =>
    rw [Service.runUntil]
    split
    next htask => exact ⟨.refl, le_max_left _ _, fun d hd => by simp [due?, htask] at hd⟩
    next task htask =>
      have hdue : s.due? = task.timer.due := by rw [due?, htask]; rfl
      split
      next hbefore =>
        obtain ⟨d, hd, hmoment⟩ := le_of_isBefore hbefore
        rw [hd] at hdue
        have honce : GoesOn s s.wake := ⟨hbegun, by rw [hdue]; rfl, rfl⟩
        obtain ⟨_, -, -, hwoken⟩ := h.exists_woken hdue
        have hless : ∀ d' ∈ s.wake.due?, d' ≤ moment → s.wake.wakesLeft moment d' ≤ fuel := by
          intro d' hd' hmoment'
          have hless := h.wakesLeft_wake hdue hd' hmoment'
          have henough := hfuel d hdue hmoment
          omega
        obtain ⟨hruns, hupTo, hdone⟩ := ih (h.wake honce.2.1) hwoken.hasBegun hless
        refine ⟨.head honce hruns, hupTo.trans ?_, hdone⟩
        rw [hwoken.clock_eq]
        exact max_le (hmoment.trans (le_max_right _ _)) (le_max_right _ _)
      next hafter =>
        exact ⟨.refl, le_max_left _ _, fun d hd => ge_of_not_isBefore hafter (hdue ▸ hd)⟩

/-- The fuel of `runTo` is enough. -/
lemma InTime.runTo (h : s.InTime) (moment : Rat) (number : Option Nat) :
    Relation.ReflTransGen GoesOn s.begun (s.runTo moment number) ∧
      (s.runTo moment number).clock ≤ max s.clock moment ∧
      ∀ d ∈ (s.runTo moment number).due?, moment ≤ d := by
  rw [← (begun_spec s).clock_eq]
  refine h.begun.runUntil (hasBegun_begun s) fun d hd _ => ?_
  have huntil : s.begun.wakesUntil moment =
      restsBetween (waitOf s.begun.ingestion.pollInterval) s.begun.clock moment +
        s.begun.collector.sink.script.length + 2 := rfl
  have hrests : restsBetween (waitOf s.begun.ingestion.pollInterval) d moment ≤
      restsBetween (waitOf s.begun.ingestion.pollInterval) s.begun.clock moment :=
    restsBetween_le (h.begun.clock_le d hd)
  rw [huntil, wakesLeft]
  omega

/-- So is that of `runOut` for a pass after which the background comes to its end. -/
lemma InTime.runOut (h : s.InTime) (hbegun : s.HasBegun) (hstop : s.stopRequested = some true)
    (hpass : s.due?.isSome) (hfuel : s.collector.sink.script.length < fuel) :
    Relation.ReflTransGen GoesOn s (runOut fuel s) ∧ (runOut fuel s).task = none := by
  induction fuel generalizing s with
  | zero => exact absurd hfuel (Nat.not_lt_zero _)
  | succ fuel ih =>
    obtain ⟨d, hdue⟩ := Option.isSome_iff_exists.1 hpass
    obtain ⟨task, htask, -, hwoken⟩ := h.exists_woken hdue
    have hwake := h.wake hpass
    have honce : GoesOn s s.wake := ⟨hbegun, hpass, rfl⟩
    have hagain := hwoken.hasBegun
    have hspends := spends_passPart s task
    rw [Service.runOut, if_pos (isRunning_eq_true htask)]
    generalize s.wake = s' at hwoken hwake honce hagain
    cases hwoken with
    | waits hpart =>
      rw [hpart] at hspends
      have hscript := hspends.script_le
      simp only [PassResult.suspension?, Option.toList_some, List.length_singleton] at hscript
      obtain ⟨hruns, hend⟩ := ih hwake hagain hstop rfl (by simp only; omega)
      exact ⟨.head honce hruns, hend⟩
    | rests _ _ _ hgoes => exact absurd hstop hgoes
    | ends =>
      cases fuel with
      | zero => exact ⟨.single honce, rfl⟩
      | succ fuel => exact ⟨.single honce, rfl⟩

end Service

end LogSearch.Ingestion
