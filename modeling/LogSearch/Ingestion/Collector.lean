import LogSearch.Document.Line
import LogSearch.Ingestion.Files
import LogSearch.Ingestion.OpenFile
import LogSearch.Ingestion.Outbox

/-!
# Collecting lines

A collector goes over files again and again.  Each time it reads what has been added to a file
since the last time, makes documents of the lines and puts them into the outbox.  How far it
has come in a file is known by the path of the file; a file that has become shorter than that
is read from its beginning.

The offset of a file is moved when the file has been read to its end and everything in the
outbox has been sent.  A pass over several files goes on after a file that cannot be read, and
gives up the documents that wait at that moment.

A pass stops where the sink answers late.  What it needs to go on is a `Suspension`, and
`Collector.resume` goes on with it.  In between the files may have changed, and another pass
may have been made.
-/

namespace LogSearch.Ingestion

/-- What a collector finds around it: the local zone, the directories that paths are completed
with, and the time at which lines are read. -/
structure Site where
  zone : Zone
  cwd : Text
  home : Text
  now : Instant

/-- The files, the outbox and the sink behind it, the offset reached in each file, the books,
and the journal, last entry last. -/
structure Collector (σ : Type) where
  files : Files
  outbox : Outbox
  sink : σ
  offsets : List (Text × Int)
  counts : Line.Counts
  linesRead : Nat
  rotations : Nat
  journal : List Entry

/-- Why a file or a pass is given up. -/
inductive PassFault where
  /-- The file cannot be examined or read. -/
  | read (fault : ReadFault)
  /-- The path holds the character NUL. -/
  | nulInPath
  /-- A line begins with a timestamp that is out of range. -/
  | range (fault : RangeFault)
  /-- The outcome of a request cannot be booked to the end. -/
  | send (fault : SendFault)
deriving DecidableEq, Repr

/-- The wording of a fault. -/
def PassFault.message : PassFault → Text
  | .read .notDirectory => "Not a directory"
  | .read .refused => "Input/output error"
  | .nulInPath => "embedded null byte"
  | .range fault => fault.message
  | .send fault => fault.message

/-- A file that is being read while a request is under way: the size of its batch, the outcome
that it will have, the seconds until then, and whether the file was read to its end before. -/
structure Suspension where
  file : OpenFile
  batch : List Document
  outcome : Outcome
  delay : Rat
  atEnd : Bool

/-- How far the reading of a file has come. -/
inductive FileResult where
  /-- The file was read to its end, or there was nothing to read; this many lines were read. -/
  | finished (lines : Nat)
  | failed (fault : PassFault)
  | suspended (s : Suspension)

/-- How far a pass has come. -/
inductive PassResult where
  | finished
  | failed (fault : PassFault)
  /-- The reading of a file is suspended; these paths come after it. -/
  | suspended (s : Suspension) (paths : List Text)

namespace Collector

variable {σ : Type}

/-- A collector that has not read anything. -/
def new (files : Files) (outbox : Outbox) (sink : σ) : Collector σ :=
  ⟨files, outbox, sink, [], ⟨0, 0⟩, 0, 0, []⟩

/-- The collector with another entry in the journal. -/
def report (c : Collector σ) (severity : Severity) (message : Text) : Collector σ :=
  { c with journal := c.journal ++ [⟨severity, message⟩] }

/-- The offset reached in a file. -/
def offset (c : Collector σ) (path : Text) : Int := (c.offsets.lookup path).getD 0

/-- The collector with another offset for a file. -/
def setOffset (c : Collector σ) (path : Text) (offset : Int) : Collector σ :=
  { c with offsets := Files.assign path offset c.offsets }

/-- The collector that begins a file anew. -/
def forget (c : Collector σ) (path : Text) : Collector σ :=
  { c with offsets := c.offsets.filter (·.1 ≠ path) }

/-- The collector without the documents that wait. -/
def discard (c : Collector σ) : Collector σ := { c with outbox := c.outbox.discard }

/-- Books a batch with its outcome. -/
def settle (c : Collector σ) (size : Nat) (outcome : Outcome) :
    Collector σ × Except SendFault Nat :=
  let s := c.outbox.settle size outcome
  ({ c with outbox := s.outbox, journal := c.journal ++ s.entries }, s.result)

/-- Hands the documents that wait to the sink. -/
def dispatch [Sink σ] (c : Collector σ) : List Document × Delivery × Collector σ :=
  let (delivery, sink) := Sink.bulk c.sink c.outbox.index c.outbox.pending
  (c.outbox.pending, delivery, { c with outbox := c.outbox.empty, sink := sink })

/-- Makes a document of a line and puts it into the outbox; a blank line makes none. -/
def accept (site : Site) (c : Collector σ) (source : Text) (line : Bytes) :
    Collector σ × Except RangeFault (Option Document) :=
  match Line.document? site.zone site.now source (lineText line) with
  | .error fault => (c, .error fault)
  | .ok none => ({ c with counts := c.counts.count none }, .ok none)
  | .ok (some d) =>
    ({ c with counts := c.counts.count (some d), outbox := c.outbox.add d }, .ok (some d))

/-- Keeps the offset of a file that was read to its end. -/
def complete (c : Collector σ) (f : OpenFile) : Collector σ × FileResult :=
  ({ c.setOffset f.path f.offset with linesRead := c.linesRead + f.lines }, .finished f.lines)

/-- Sends what waits at the end of a file. -/
def finishFile [Sink σ] (c : Collector σ) (f : OpenFile) : Collector σ × FileResult :=
  if c.outbox.pending = [] then c.complete f
  else
    let (batch, delivery, c) := c.dispatch
    if delivery.isLate then
      let f := f.rest (c.files.content f.number)
      (c, .suspended ⟨f, batch, delivery.outcome, delivery.delay, true⟩)
    else
      match c.settle batch.length delivery.outcome with
      | (c, .error fault) => (c, .failed (.send fault))
      | (c, .ok _) => c.complete f

/-- Takes in the lines that are left of a file. -/
def readLines [Sink σ] (site : Site) (c : Collector σ) (f : OpenFile) :
    List Bytes → Collector σ × FileResult
  | [] => if f.failsAfter.isSome then (c, .failed (.read .refused)) else c.finishFile f
  | line :: rest =>
    if f.failsAfter = some 0 then (c, .failed (.read .refused))
    else
      let f := f.takeLine line
      match c.accept site f.path line with
      | (c, .error fault) => (c, .failed (.range fault))
      | (c, .ok none) => c.readLines site f rest
      | (c, .ok (some _)) =>
        if c.outbox.isFull then
          let (batch, delivery, c) := c.dispatch
          if delivery.isLate then
            let f := f.rest (c.files.content f.number)
            (c, .suspended ⟨f, batch, delivery.outcome, delivery.delay, false⟩)
          else
            match c.settle batch.length delivery.outcome with
            | (c, .error fault) => (c, .failed (.send fault))
            | (c, .ok _) => c.readLines site f rest
        else c.readLines site f rest

/-- Takes in what is left of a file. -/
def readOn [Sink σ] (site : Site) (c : Collector σ) (f : OpenFile) : Collector σ × FileResult :=
  c.readLines site f (splitLines (f.remaining (c.files.content f.number)))

/-- What is reported of a file that has become shorter. -/
def rotationMessage (path : Text) (size : Nat) (offset : Int) : Text :=
  "Log file " ++ path ++ " rotated or truncated (size: " ++ Text.ofNat size ++ " < offset: " ++
    Text.ofInt offset ++ "), reading from start"

/-- Reads a file from the offset reached in it, or from the beginning if it is shorter now. -/
def readFile [Sink σ] (site : Site) (c : Collector σ) (path : Text) (number : Nat) :
    Collector σ × FileResult :=
  let size := (c.files.content number).length
  let offset := c.offset path
  let failsAfter := c.files.failsAfter? path
  if (size : Int) < offset then
    let c := c.report .info (rotationMessage path size offset)
    readOn site { c with rotations := c.rotations + 1 } (.start path number 0 failsAfter)
  else if offset < 0 then (c, .failed (.read .refused))
  else readOn site c (.start path number offset.toNat failsAfter)

/-- Reads what has been added to the file at a path.  A path at which nothing is, is passed
over, and so is one at which there is something other than a file, with a warning. -/
def tail [Sink σ] (site : Site) (c : Collector σ) (path : Text) : Collector σ × FileResult :=
  if Char.ofNat 0 ∈ path then (c, .failed .nulInPath)
  else
    match c.files.find path with
    | .vacant _ | .missing => (c, .finished 0)
    | .unreachable fault => (c, .failed (.read fault))
    | .directory _ =>
      (c.report .warning ("Configured log path is not a file: " ++ path), .finished 0)
    | .file number => c.readFile site path number

/-- Goes on with a file when the outcome of the request is there. -/
def resume [Sink σ] (site : Site) (c : Collector σ) (s : Suspension) : Collector σ × FileResult :=
  match c.settle s.batch.length s.outcome with
  | (c, .error fault) => (c, .failed (.send fault))
  | (c, .ok _) => if s.atEnd then c.complete s.file else c.readOn site s.file

/-! ## Passes -/

/-- Goes on with a pass after the reading of the file at a path.  If the file could not be
read, that is reported and the documents that wait are given up. -/
def proceed (path : Text) (paths : List Text) (go : Collector σ → Collector σ × PassResult) :
    Collector σ × FileResult → Collector σ × PassResult
  | (c, .finished _) => go c
  | (c, .failed (.read _)) =>
    go (c.report .error ("Failed to ingest logs from " ++ path)).discard
  | (c, .failed fault) => (c, .failed fault)
  | (c, .suspended s) => (c, .suspended s paths)

/-- A pass over the files at the paths, in their order. -/
def pass [Sink σ] (site : Site) (c : Collector σ) : List Text → Collector σ × PassResult
  | [] => (c, .finished)
  | configured :: paths =>
    let path := Path.normalize site.cwd site.home configured
    proceed path paths (fun c => c.pass site paths) (c.tail site path)

/-- Goes on with a pass when the outcome of the request is there. -/
def resumePass [Sink σ] (site : Site) (c : Collector σ) (s : Suspension) (paths : List Text) :
    Collector σ × PassResult :=
  proceed s.file.path paths (fun c => c.pass site paths) (c.resume site s)

end Collector

end LogSearch.Ingestion
