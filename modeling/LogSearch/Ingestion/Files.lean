import LogSearch.Ingestion.Path
import LogSearch.Text.Utf8

/-!
# Files

The files that are watched: a tree of names, in which a name stands for a directory, for
another path or for a file, and the contents of the files.  A name is told apart from the file
it stands for, so that a file can be read on when its name has gone to another file.

A path is looked up from left to right (`Files.find`).  A component that is a link is replaced
by the components that the link leads to.  That can happen forty times in one look-up.
-/

namespace LogSearch.Ingestion

/-- What a name stands for. -/
inductive Node where
  | directory
  | link (target : Text)
  | file (number : Nat)
deriving DecidableEq, Repr

/-- A tree of names, and the contents of the files by their numbers.  Reading a path that is
listed as failing breaks off after so many lines. -/
structure Files where
  names : List (List Text × Node)
  contents : List (Nat × Bytes)
  failing : List (Text × Nat)
deriving Repr

/-- Why a path cannot be examined or a file not be read. -/
inductive ReadFault where
  /-- A component that is followed by others is a file. -/
  | notDirectory
  /-- Anything else that the file system refuses. -/
  | refused
deriving DecidableEq, Repr

/-- What is found at a path.  Where nothing is, the place is given at which a file would be
made. -/
inductive Place where
  | directory (place : List Text)
  | file (number : Nat)
  | vacant (place : List Text)
  | missing
  | unreachable (fault : ReadFault)
deriving DecidableEq, Repr

namespace Files

/-- The greatest number of bytes in a component and in a path, and the number of links in a
look-up. -/
def longestName : Nat := 255

@[inherit_doc longestName]
def longestPath : Nat := 4095

@[inherit_doc longestName]
def mostLinks : Nat := 40

/-- Files of which there are none, in the given directories. -/
def inDirectories (places : List (List Text)) : Files :=
  ⟨places.map fun p => (p, .directory), [], []⟩

/-- What the name at a place stands for. -/
def node? (fs : Files) (place : List Text) : Option Node := fs.names.lookup place

/-- Looks up the components that are to come, from a directory on. -/
def walk (fs : Files) (links : Nat) (here : List Text) (components : List Text) : Place :=
  match components with
  | [] => .directory here
  | c :: rest =>
    if c = [] ∨ c = ['.'] then walk fs links here rest
    else if c = ['.', '.'] then walk fs links here.dropLast rest
    else if longestName < Utf8.size c then .unreachable .refused
    else
      let place := here ++ [c]
      match fs.node? place with
      | none => if rest = [] then .vacant place else .missing
      | some .directory => walk fs links place rest
      | some (.file number) => if rest = [] then .file number else .unreachable .notDirectory
      | some (.link target) =>
        match links with
        | 0 => .unreachable .refused
        | links + 1 =>
          let start := match target with
            | '/' :: _ => []
            | _ => here
          walk fs links start (Text.splitAt '/' target ++ rest)
termination_by (links, components.length)

/-- What is found at an absolute path. -/
def find (fs : Files) (path : Text) : Place :=
  if longestPath < Utf8.size path then .unreachable .refused
  else fs.walk mostLinks [] (Text.splitAt '/' path)

/-- The bytes of a file. -/
def content (fs : Files) (number : Nat) : Bytes := (fs.contents.lookup number).getD []

/-- After how many lines reading the path breaks off. -/
def failsAfter? (fs : Files) (path : Text) : Option Nat := fs.failing.lookup path

/-! ## Changes -/

/-- The list with a value for the key, in place of any that it had. -/
def assign {α β : Type} [DecidableEq α] (key : α) (value : β) : List (α × β) → List (α × β)
  | [] => [(key, value)]
  | (k, v) :: rest => if k = key then (key, value) :: rest else (k, v) :: assign key value rest

/-- The files with a name at a place. -/
def setNode (fs : Files) (place : List Text) (n : Node) : Files :=
  { fs with names := assign place n fs.names }

/-- The files with other bytes in a file. -/
def setContent (fs : Files) (number : Nat) (bytes : Bytes) : Files :=
  { fs with contents := assign number bytes fs.contents }

/-- A number that no file has. -/
def freshNumber (fs : Files) : Nat := (fs.contents.map (·.1 + 1)).foldl max 0

/-- Makes the directories on the way from a place that do not exist, outermost first. -/
def makeDirectories (fs : Files) (here : List Text) : List Text → Files
  | [] => fs
  | c :: rest =>
    match fs.walk mostLinks here [c] with
    | .directory place => makeDirectories fs place rest
    | .vacant place => makeDirectories (fs.setNode place .directory) place rest
    | _ => fs

/-- The files with the directories on the way to a path. -/
def withParents (fs : Files) (path : Text) : Files :=
  fs.makeDirectories [] (Path.components path).dropLast

/-- The place of the name at a path.  Links on the way are followed, but not the name itself. -/
def placeOf (fs : Files) (path : Text) : List Text :=
  let components := Path.components path
  match fs.walk mostLinks [] components.dropLast with
  | .directory place => place ++ components.getLast?.toList
  | _ => components

/-- Replaces the bytes of the file at a path; the file is made if it does not exist. -/
def update (fs : Files) (path : Text) (change : Bytes → Bytes) : Files :=
  let fs := fs.withParents path
  match fs.find path with
  | .file number => fs.setContent number (change (fs.content number))
  | .vacant place =>
    let number := fs.freshNumber
    (fs.setNode place (.file number)).setContent number (change [])
  | _ => fs

/-- Writes a file anew. -/
def write (fs : Files) (path : Text) (bytes : Bytes) : Files := fs.update path fun _ => bytes

/-- Adds to the end of a file. -/
def append (fs : Files) (path : Text) (bytes : Bytes) : Files := fs.update path (· ++ bytes)

/-- Cuts a file to a size, or fills it up with zeros. -/
def truncate (fs : Files) (path : Text) (size : Nat) : Files :=
  fs.update path fun b => b.take size ++ List.replicate (size - b.length) 0

/-- Makes a directory. -/
def makeDirectory (fs : Files) (path : Text) : Files :=
  fs.makeDirectories [] (Path.components path)

/-- Makes a link. -/
def link (fs : Files) (path target : Text) : Files :=
  let fs := fs.withParents path
  fs.setNode (fs.placeOf path) (.link target)

/-- Takes away the name at a place and all names below it. -/
def removePlace (fs : Files) (place : List Text) : Files :=
  { fs with names := fs.names.filter fun n => !place.isPrefixOf n.1 }

/-- Takes away a name and all names below it. -/
def remove (fs : Files) (path : Text) : Files := fs.removePlace (fs.placeOf path)

/-- Gives another name to what is at a path and below it. -/
def rename (fs : Files) (path newPath : Text) : Files :=
  let fs := fs.withParents newPath
  let source := fs.placeOf path
  let target := fs.placeOf newPath
  let moved := fs.names.filter fun n => source.isPrefixOf n.1
  let fs := (fs.removePlace source).removePlace target
  { fs with names := fs.names ++ moved.map fun n => (target ++ n.1.drop source.length, n.2) }

/-- From now on, reading the path breaks off after so many lines. -/
def fail (fs : Files) (path : Text) (lines : Nat) : Files :=
  { fs with failing := assign path lines fs.failing }

/-- Reading the path does not break off any more. -/
def mend (fs : Files) (path : Text) : Files :=
  { fs with failing := fs.failing.filter (·.1 ≠ path) }

end Files

end LogSearch.Ingestion
