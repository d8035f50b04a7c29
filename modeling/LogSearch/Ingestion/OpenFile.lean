import LogSearch.Text.Utf8

/-!
# Reading a file line by line

A line ends after a line feed, or where the file ends.  `splitLines` cuts bytes into lines, of
which the last one may have no line feed; put together again the lines are the bytes.

A file is fetched in blocks, and the lines are cut out of what has been fetched.  This matters
when a file is changed while it is read: what has been fetched does not change any more, and
what is fetched later is what the file holds then.  An `OpenFile` knows the bytes that were
fetched and not yet taken, and where the next block begins.
-/

namespace LogSearch.Ingestion

/-- The lines of a sequence of bytes, each with its line feed if it has one. -/
def splitLines : Bytes → List Bytes
  | [] => []
  | b :: rest =>
    if b = 10 then [b] :: splitLines rest
    else match splitLines rest with
      | [] => [[b]]
      | line :: lines => (b :: line) :: lines

/-- The text of a line, without the line feeds and carriage returns at its end. -/
def lineText (line : Bytes) : Text :=
  Text.trimEndBy (fun c => c == '\r' || c == '\n') (Utf8.decodeLossy line)

/-- The number of bytes that are fetched at a time. -/
def blockSize : Nat := 4096

/-- A file that is being read: the path under which it was opened, its number, how far the
reading has come, the number of lines taken so far, and the number of lines after which the
reading breaks off, if it does.  Of the bytes, `fetched` were fetched by the beginning of the
present run of reading, `next` is where the next block began then, and `taken` is how many
bytes were taken since. -/
structure OpenFile where
  path : Text
  number : Nat
  offset : Int
  lines : Nat
  failsAfter : Option Nat
  fetched : Bytes
  next : Nat
  taken : Nat
deriving Repr

namespace OpenFile

/-- A file of which nothing has been read, to be read from a place on. -/
def start (path : Text) (number : Nat) (offset : Nat) (failsAfter : Option Nat) : OpenFile :=
  ⟨path, number, offset, 0, failsAfter, [], offset, 0⟩

/-- The bytes that are left to be read, of a file that holds `content`. -/
def remaining (f : OpenFile) (content : Bytes) : Bytes := f.fetched ++ content.drop f.next

/-- The file with one more line taken. -/
def takeLine (f : OpenFile) (line : Bytes) : OpenFile :=
  { f with offset := f.offset + line.length, lines := f.lines + 1, taken := f.taken + line.length,
           failsAfter := f.failsAfter.map (· - 1) }

/-- The file at the end of a run of reading, during which it held `content`: as many blocks
have been fetched as the bytes taken called for. -/
def rest (f : OpenFile) (content : Bytes) : OpenFile :=
  if f.taken ≤ f.fetched.length then { f with fetched := f.fetched.drop f.taken, taken := 0 }
  else
    let fromBlocks := f.taken - f.fetched.length
    let blocks := (fromBlocks + blockSize - 1) / blockSize
    let unfetched := content.drop f.next
    let fetched := unfetched.take (blocks * blockSize)
    { f with fetched := fetched.drop fromBlocks, next := f.next + fetched.length, taken := 0 }

end OpenFile

end LogSearch.Ingestion
