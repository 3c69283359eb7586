import LanguageClient.Json.Printer
import LanguageClient.Path
import LanguageClient.Table

/-!
# Files

A tree of files as a table from absolute paths to what is there. Directories above an entry are
there without an entry of their own.
-/

namespace LanguageClient

/-- What there is at a path. -/
inductive Entry
  | file (bytes : List UInt8)
  | directory
  deriving DecidableEq, Repr

/-- Entries by their paths, which have neither dots nor slashes that do not count. -/
abbrev Files := Table Entry

namespace Files

/-- Why a file cannot be read. -/
inductive Fault
  | missing
  /-- The path goes through a file. -/
  | notDirectory
  | directory
  | nameTooLong
  /-- The bytes are not UTF-8. -/
  | notText
  deriving DecidableEq, Repr

def Fault.message : Fault → String
  | .missing => "No such file or directory (os error 2)"
  | .notDirectory => "Not a directory (os error 20)"
  | .directory => "Is a directory (os error 21)"
  | .nameTooLong => "File name too long (os error 36)"
  | .notText => "stream did not contain valid UTF-8"

def isFile (files : Files) (path : List Char) : Bool :=
  match files.find? (String.ofList path) with
  | some (.file _) => true
  | _ => false

/-- Whether there is a directory; the empty path is the root. -/
def isDirectory (files : Files) (path : List Char) : Bool :=
  path.isEmpty || files.any fun (key, entry) =>
    (entry = .directory && key = String.ofList path) || (path ++ ['/']).isPrefixOf key.toList

/-- The directory above one. -/
def above (path : List Char) : List Char := ((path.reverse.dropWhile (· ≠ '/')).drop 1).reverse

/-- How many bytes a name may have. -/
def nameLimit : Nat := 255

/-- How many bytes a path may have. -/
def pathLimit : Nat := 4095

/-- The number of bytes of a text. -/
def size (cs : List Char) : Nat := (String.ofList cs).utf8ByteSize

/-- Directories by other paths that lead to them. -/
def links : List (String × String) := [
  ("/bin", "/usr/bin"), ("/lib", "/usr/lib"), ("/lib64", "/usr/lib64"), ("/sbin", "/usr/sbin")]

/-- The path that a path stands for. -/
def target (path : List Char) : List Char :=
  match links.lookup (String.ofList path) with
  | some other => other.toList
  | none => path

/-- Follow components from `path`, where everything on the way has to be there. -/
def walk (files : Files) (path : List Char) : List (List Char) → Except Fault (List Char)
  | [] => .ok path
  | c :: rest =>
    if files.isFile path then .error .notDirectory
    else if c = ['.', '.'] then walk files (above path) rest
    else if nameLimit < size c then .error .nameTooLong
    else
      let next := target (path ++ '/' :: c)
      if files.isFile next || files.isDirectory next then walk files next rest
      else .error .missing

/-- Where a path leads, seen from the directory `here`. -/
def resolve (files : Files) (here path : List Char) : Except Fault (List Char) := do
  if path.isEmpty then throw .missing
  if pathLimit < size path then throw .nameTooLong
  let start := if Path.isAbsolute path then [] else Path.components here
  let found ← files.walk [] (start ++ Path.components path)
  if Path.endsInSlash path && files.isFile found then throw .notDirectory
  return found

/-- Whether a path leads anywhere. -/
def exists? (files : Files) (here path : List Char) : Bool := (files.resolve here path).isOk

/-- Whether a path leads to a directory. -/
def leadsToDirectory (files : Files) (here path : List Char) : Bool :=
  match files.resolve here path with
  | .ok found => files.isDirectory found
  | .error _ => false

def read (files : Files) (here path : List Char) : Except Fault (List UInt8) := do
  match files.find? (String.ofList (← files.resolve here path)) with
  | some (.file bytes) => return bytes
  | _ => throw .directory

def readText (files : Files) (here path : List Char) : Except Fault String := do
  match String.fromUTF8? ⟨(← files.read here path).toArray⟩ with
  | some text => return text
  | none => throw .notText

/-- The names in a directory. -/
def list (files : Files) (path : List Char) : List (List Char) :=
  let below := files.filterMap fun (key, _) =>
    if (path ++ ['/']).isPrefixOf key.toList then
      some ((key.toList.drop (path.length + 1)).takeWhile (· ≠ '/'))
    else none
  let linked := links.filterMap fun (key, _) =>
    if (path ++ ['/']).isPrefixOf key.toList then some (key.toList.drop (path.length + 1)) else none
  (below ++ linked).eraseDups

/-- The directory that components lead to from `path`, where those that are missing on the way can
be made; nothing when a file is in the way. -/
def reach (files : Files) (path : List Char) : List (List Char) → Option (List Char)
  | [] => if files.isFile path then none else some path
  | c :: rest =>
    if files.isFile path || nameLimit < size c then none
    else reach files (if c = ['.', '.'] then above path else target (path ++ '/' :: c)) rest

/-- Put an entry at a path whose directory can be reached. -/
def put (files : Files) (here path : List Char) (entry : Entry) : Option (Files × List Char) := do
  let start := if Path.isAbsolute path then [] else Path.components here
  let parent ← Path.parent? path
  let name ← Path.name? path
  if nameLimit < size name || pathLimit < size path then none
  let directory ← files.reach [] (start ++ Path.components parent)
  let found := directory ++ '/' :: name
  if files.isDirectory found then none
  else return (files.insert (String.ofList found) entry, found)

end Files

end LanguageClient
