import LanguageClient.Text.Parts

/-!
# Paths

A path is a text of components between slashes. Repeated slashes do not count, and neither do single
dots, but for one at the very beginning; two dots stand for whatever is above and are left alone.
-/

namespace LanguageClient.Path

/-- Whether a path starts at the root. -/
def isAbsolute : List Char → Bool
  | '/' :: _ => true
  | _ => false

/-- Whether a path is marked as one of a directory. -/
def endsInSlash (path : List Char) : Bool := path.getLast? = some '/'

/-- The components of a path, without dots. -/
def components (path : List Char) : List (List Char) :=
  (Text.splitOn '/' path).filter fun s => !s.isEmpty && s ≠ ['.']

/-- A component put at the end of a path; an empty one marks a directory. -/
def push (path component : List Char) : List Char :=
  if path.isEmpty || endsInSlash path then path ++ component else path ++ '/' :: component

/-- The root that an absolute path starts at: two leading slashes, and no more, are a root of their
own. -/
def rootOf : List Char → List Char
  | '/' :: '/' :: '/' :: _ => ['/']
  | '/' :: '/' :: _ => ['/', '/']
  | _ => ['/']

/-- The path as seen from the root, by way of the directory `here`. An empty path leads nowhere. -/
def absolute? (here path : List Char) : Option (List Char) :=
  if path.isEmpty then none
  else
    let start := if isAbsolute path then rootOf path else here
    let whole := (components path).foldl push start
    some (if endsInSlash path then push whole [] else whole)

/-- The last component, where it is a name. -/
def name? (path : List Char) : Option (List Char) :=
  match (components path).getLast? with
  | some name => if name = ['.', '.'] then none else some name
  | none => none

/-- What follows the last dot of the name; a dot at its beginning is part of the name. -/
def extension? (path : List Char) : Option (List Char) := do
  let name ← name? path
  let after := (name.reverse.takeWhile (· ≠ '.')).reverse
  if after.length + 1 < name.length then return after else none

/-- The components with the dot that a path may begin with. -/
def steps (path : List Char) : List (List Char) :=
  if (Text.splitOn '/' path).head? = some ['.'] then ['.'] :: components path
  else components path

/-- The path without its last step; nothing at the root. -/
def parent? (path : List Char) : Option (List Char) :=
  let start := if isAbsolute path then ['/'] else []
  if (steps path).isEmpty then none else some ((steps path).dropLast.foldl push start)

end LanguageClient.Path
