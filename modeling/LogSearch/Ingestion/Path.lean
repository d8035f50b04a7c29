import LogSearch.Text.Basic

/-!
# Paths

A path is brought into a form in which it is the key of a file: a tilde in front is replaced by
the home directory, a relative path is continued from the working directory, and then the
components are read from left to right, where an empty one and a single dot change nothing and
two dots take back the component before.  Two dots at the root stay at the root.  Links are not
followed.

A path that begins with exactly two slashes keeps them; any other absolute path begins with
one.

The home directories of other users are not looked up, and so the faults of looking one up, as for a
name that holds the character zero, are left out.
-/

namespace LogSearch.Ingestion.Path

/-- The path with the home directory in place of a tilde that stands alone before the first
slash.  The home of another user is not known, and such a path is left as it is. -/
def expandHome (home path : Text) : Text :=
  let expanded (rest : Text) : Text :=
    let whole := Text.trimEndBy (· == '/') home ++ rest
    if whole = [] then ['/'] else whole
  match path with
  | ['~'] => expanded []
  | '~' :: '/' :: rest => expanded ('/' :: rest)
  | _ => path

/-- The path itself if it is absolute, and otherwise continued from the working directory. -/
def absolute (cwd path : Text) : Text :=
  match path with
  | '/' :: _ => path
  | _ => if cwd.getLast? = some '/' then cwd ++ path else cwd ++ ['/'] ++ path

/-- One more component; those before it are given last one first. -/
def push (before : List Text) (component : Text) : List Text :=
  if component = [] ∨ component = ['.'] then before
  else if component = ['.', '.'] then before.drop 1
  else component :: before

/-- The components of an absolute path, from left to right. -/
def components (path : Text) : List Text :=
  ((Text.splitAt '/' path).foldl push []).reverse

/-- The slashes in front of an absolute path. -/
def root : Text → Text
  | '/' :: '/' :: '/' :: _ => ['/']
  | '/' :: '/' :: _ => ['/', '/']
  | _ => ['/']

/-- The path as the key of a file. -/
def normalize (cwd home path : Text) : Text :=
  let whole := absolute cwd (expandHome home path)
  root whole ++ Text.join ['/'] (components whole)

end LogSearch.Ingestion.Path
