import LogSearch.Ingestion.Collector
import LogSearch.Json.Display
import LogSearch.Number.Shortest
import LogSearch.Settings.Sections

/-!
# The ingestion service

A service makes passes over the log files in the background: the first one some time after it
was started, and each of the others some time after the end of the one before.  Beside that a
pass can be made directly, and the two may overlap where the search backend answers late.

A start only creates the background.  It begins (`Service.begun`) as soon as somebody waits, and
it is then that it reads how long it has to wait before the first pass.

Time is given as seconds since the beginning and moves on in two ways only: something in the
background falls due (`Service.wake`), or somebody waits (`Service.waitUntil`).  At any moment
at most one thing is waited for in the background, the end of a delay or an outcome; its
`Timer` says when it falls due.  Of two timers that fall due at one instant the one that was
set first comes first.

A stop is a request.  It ends a delay at once, and a background that is not in a delay is waited
for, up to a time-out after which it is cancelled; if it is in a pass, its batch is lost then.  A
background that has not begun yet and has a delay before it ends there.  A wait of no length does
not notice the request: what has no delay before its first pass makes that pass, and what has no
rest between its passes goes on with them.
-/

namespace LogSearch.Ingestion

/-- When something falls due, never if there is no time, and the place in the order in which
timers were set. -/
structure Timer where
  due : Option Rat
  number : Nat
deriving DecidableEq

/-- The timer falls due before a moment, where timers set later than `number` do not count at
the moment itself. -/
def Timer.isBefore (t : Timer) (moment : Rat) (number : Option Nat) : Bool :=
  match t.due with
  | none => false
  | some due =>
    due < moment || (due == moment && (number.map fun n => decide (t.number < n)).getD true)

/-- The seconds of a wait; a number that is none, and positive infinity, are for ever. -/
def waitOf : Binary64 → Option Rat
  | .nan => none
  | .infinite negative => if negative then some 0 else none
  | x => x.toRat?

/-- The wait has no length. -/
def isNoWait (wait : Option Rat) : Bool := (wait.map fun w => decide (w ≤ 0)).getD false

/-- What the service does in the background. -/
inductive Task where
  /-- Has been created and has not begun. -/
  | created (timer : Timer)
  /-- Waits before the first pass. -/
  | delaying (timer : Timer)
  /-- Waits for an outcome in the middle of a pass. -/
  | passing (timer : Timer) (s : Suspension) (paths : List Text)
  /-- Waits before the next pass. -/
  | resting (timer : Timer)
  /-- Goes on to the next pass without a rest. -/
  | turning (timer : Timer)

/-- The timer of what is waited for. -/
def Task.timer : Task → Timer
  | .created t => t
  | .delaying t => t
  | .passing t _ _ => t
  | .resting t => t
  | .turning t => t

/-- It is in a delay that a stop ends. -/
def Task.isDelay : Task → Bool
  | .delaying _ | .resting _ => true
  | .created _ | .passing _ _ _ | .turning _ => false

/-- The service: its settings, which may be changed while it runs, its collector, the time, the
number of timers set, whether a stop was requested since the last start, if there was one, what
it does in the background, if anything, and its books. -/
structure Service (σ : Type) where
  site : Site
  search : SearchSettings
  ingestion : IngestionSettings
  collector : Collector σ
  clock : Rat
  timersSet : Nat
  stopRequested : Option Bool
  task : Option Task
  ticks : Nat
  failedTicks : Nat

namespace Service

variable {σ : Type}

/-- A service that has not been started. -/
def new? (site : Site) (files : Files) (sink : σ) (search : SearchSettings)
    (ingestion : IngestionSettings) : Option (Service σ) :=
  (Outbox.new? search.index ingestion.bulkSize).map fun outbox =>
    ⟨site, search, ingestion, .new files outbox sink, 0, 0, none, none, 0, 0⟩

/-- Something is done in the background. -/
def isRunning (s : Service σ) : Bool := s.task.isSome

/-- Passes are made and not passed over. -/
def isActive (s : Service σ) : Bool := Settings.ingestionActive s.search s.ingestion

/-- The service with another entry in the journal. -/
def report (s : Service σ) (severity : Severity) (message : Text) : Service σ :=
  { s with collector := s.collector.report severity message }

/-- The next timer, due after a wait. -/
def nextTimer (s : Service σ) (wait : Option Rat) : Timer := ⟨wait.map (s.clock + ·), s.timersSet⟩

/-- The service with a task that waits for the next timer. -/
def await (s : Service σ) (wait : Option Rat) (task : Timer → Task) : Service σ :=
  { s with task := some (task (s.nextTimer wait)), timersSet := s.timersSet + 1 }

/-! ## In the background -/

/-- Rests until the next pass.  If a stop was requested, the service comes to its end instead,
unless there is no rest. -/
def rest (s : Service σ) : Service σ :=
  let wait := waitOf s.ingestion.pollInterval
  if isNoWait wait then s.await (some 0) .turning
  else if s.stopRequested = some true then { s with task := none }
  else s.await wait .resting

/-- Goes on after what a pass has come to. -/
def afterPass (s : Service σ) : Collector σ × PassResult → Service σ
  | (c, .finished) => rest { s with collector := c, ticks := s.ticks + 1 }
  | (c, .failed fault) =>
    let s := { s with collector := c }.report .error ("Ingestion tick failed: " ++ fault.message)
    rest { s with ticks := s.ticks + 1, failedTicks := s.failedTicks + 1 }
  | (c, .suspended suspension paths) =>
    { s with collector := c }.await (some suspension.delay) fun t => .passing t suspension paths

/-- A pass over the files, if passes are made. -/
def makePass [Sink σ] (s : Service σ) : Collector σ × PassResult :=
  if s.isActive then s.collector.pass s.site s.ingestion.paths else (s.collector, .finished)

/-- Begins what has been created: with the delay before the first pass, or, if that has no length,
with the first pass as soon as the background goes on.  If a stop was requested, a delay of some
length is the end of it. -/
def begun (s : Service σ) : Service σ :=
  match s.task with
  | some (.created _) =>
    let wait := waitOf s.ingestion.initialDelay
    if isNoWait wait then s
    else if s.stopRequested = some true then { s with task := none }
    else s.await wait .delaying
  | _ => s

/-- Goes on in the background at the time at which that falls due. -/
def wake [Sink σ] (s : Service σ) : Service σ :=
  match s.task with
  | none => s
  | some task =>
    let s := { s with clock := task.timer.due.getD s.clock }
    match task with
    | .created _ | .delaying _ | .resting _ | .turning _ => s.afterPass s.makePass
    | .passing _ suspension paths => s.afterPass (s.collector.resumePass s.site suspension paths)

/-- Goes on in the background with all that falls due before a moment, at most `fuel` times. -/
def runUntil [Sink σ] (moment : Rat) (number : Option Nat) : Nat → Service σ → Service σ
  | 0, s => s
  | fuel + 1, s =>
    match s.task with
    | none => s
    | some task =>
      if task.timer.isBefore moment number then runUntil moment number fuel s.wake else s

/-- Goes on in the background until that comes to its end, at most `fuel` times. -/
def runOut [Sink σ] : Nat → Service σ → Service σ
  | 0, s => s
  | fuel + 1, s => if s.isRunning then runOut fuel s.wake else s

/-- A bound on how often the background goes on up to a moment: once for what is waited for
now, once for every late answer, and once for every rest. -/
def wakesUntil [Sink σ] (s : Service σ) (moment : Rat) : Nat :=
  let rests :=
    match waitOf s.ingestion.pollInterval with
    | none => 0
    | some w => if 0 < w then ((moment - s.clock) / w).floor.toNat else 0
  rests + Sink.lateAnswers s.collector.sink + 2

/-- The service after all that falls due before a moment; timers set later than `number` do not
count at the moment itself. -/
def runTo [Sink σ] (s : Service σ) (moment : Rat) (number : Option Nat) : Service σ :=
  let s := s.begun
  runUntil moment number (s.wakesUntil moment) s

/-- The service at a moment, with everything done that falls due until then. -/
def waitUntil [Sink σ] (s : Service σ) (moment : Rat) (number : Option Nat) : Service σ :=
  let s := s.runTo moment number
  { s with clock := if s.clock < moment then moment else s.clock }

/-- The service after a wait in the foreground, while the background goes on. -/
def pause [Sink σ] (s : Service σ) (seconds : Rat) : Service σ :=
  let number := s.timersSet
  { s with timersSet := number + 1 }.waitUntil (s.clock + seconds) (some number)

/-- The service with everything done that is due now. -/
def settle [Sink σ] (s : Service σ) : Service σ := s.runTo s.clock none

/-- Lets time pass; less than no time is no time. -/
def advance [Sink σ] (s : Service σ) (seconds : Rat) : Service σ :=
  s.waitUntil (s.clock + if 0 < seconds then seconds else 0) none

/-! ## Starting and stopping -/

/-- What is reported of a service that is started. -/
def startedMessage (i : IngestionSettings) : Text :=
  "Started log ingestion service (paths=" ++ Json.displayTexts i.paths ++ ", bulk_size=" ++
    Text.ofInt i.bulkSize ++ ", poll_interval=" ++ i.pollInterval.oneDecimal ++
    "s, initial_delay=" ++ i.initialDelay.oneDecimal ++ "s)"

/-- Creates the background, unless it is running. -/
def start (s : Service σ) : Service σ :=
  if s.isRunning then s.report .warning "Ingestion already running"
  else
    let s :=
      if s.ingestion.enabled then s
      else s.report .info "Log ingestion disabled (INGEST_ENABLED=false); ticks will be no-ops"
    let s := s.report .info (startedMessage s.ingestion)
    { s with stopRequested := some false }.await (some 0) .created

/-- Ends the background where it stands.  A batch on its way is lost.  Nothing is reported before
the first pass. -/
def cancel (s : Service σ) : Service σ :=
  match s.task with
  | none => s
  | some (.created _) | some (.delaying _) => { s with task := none }
  | some (.passing _ _ _) | some (.resting _) | some (.turning _) =>
    { s with task := none }.report .info "Ingestion cancelled"

/-- Reports that the service has been stopped. -/
def reportStopped (s : Service σ) : Service σ :=
  s.report .info
    ("Stopped log ingestion service. Ticks: " ++ Text.ofNat s.ticks ++ ", documents shipped: " ++
      Text.ofNat s.collector.outbox.shipped)

/-- Ends the background because it did not come to its end in time. -/
def forceStop (s : Service σ) : Service σ :=
  s.cancel.report .warning "Ingestion did not stop gracefully, cancelling"

/-- Waits for the background to come to its end, but not longer than the time-out, after which it
is cancelled. -/
def awaitEnd [Sink σ] (s : Service σ) : Option Rat → Service σ
  | none => runOut (Sink.lateAnswers s.collector.sink + 1) s.begun
  | some w =>
    if w ≤ 0 then s.forceStop
    else
      let moment := s.clock + w
      let s := s.runTo moment (some s.timersSet)
      if s.isRunning then { s with clock := moment }.forceStop else s

/-- Requests the background to come to its end and waits for that, but not longer than the
time-out.  A delay that has begun ends at once, whatever the time-out; everything else is waited
for.  Before the first start there is nothing to stop. -/
def stop [Sink σ] (s : Service σ) (timeout : Option Rat) : Service σ :=
  if s.stopRequested = none then s
  else
    let s := { s with stopRequested := some true }
    let stopped :=
      match s.task with
      | none => s
      | some task => if task.isDelay then { s with task := none } else s.awaitEnd timeout
    stopped.reportStopped

/-- Waits until a stop is requested, but not longer than the given time, and says whether it
was.  Before the first start it is as if it were.  A wait of no length only lets the background
begin. -/
def sleep [Sink σ] (s : Service σ) (wait : Option Rat) : Bool × Service σ :=
  match s.stopRequested with
  | none => (true, s)
  | some requested =>
    if isNoWait wait then (false, s.begun)
    else if requested then (true, s)
    else (false, s.pause (wait.getD 0))

/-! ## A pass in the foreground -/

/-- Brings a pass to its end while the background goes on, waiting for at most `fuel` outcomes. -/
def finishPass [Sink σ] :
    Nat → Service σ → Collector σ × PassResult → Service σ × Except PassFault Unit
  | _, s, (c, .finished) => ({ s with collector := c }, .ok ())
  | _, s, (c, .failed fault) => ({ s with collector := c }, .error fault)
  | 0, s, (c, .suspended _ _) => ({ s with collector := c }, .ok ())
  | fuel + 1, s, (c, .suspended suspension paths) =>
    let s := { s with collector := c }.pause suspension.delay
    finishPass fuel s (s.collector.resumePass s.site suspension paths)

/-- Makes a pass and says whether passes are made.  It does not count as one of the service's
passes. -/
def tick [Sink σ] (s : Service σ) : Service σ × Except PassFault Bool :=
  if s.isActive then
    let fuel := Sink.lateAnswers s.collector.sink + 1
    let (s, result) := finishPass fuel s s.makePass
    (s, result.map fun _ => true)
  else (s, .ok false)

end Service

end LogSearch.Ingestion
