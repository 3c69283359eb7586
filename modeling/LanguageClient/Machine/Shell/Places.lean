import LanguageClient.Machine.Shell.Lines
import LanguageClient.Machine.Programs

/-!
# Tools for files

Commands that make, move, list and take away files, and that take paths apart.
-/

namespace LanguageClient.Shell

def basename : Args → Doing Unit
  | path :: more =>
    let name := ((Path.components path).getLast?).getD (if path.isEmpty then [] else ['/'])
    let ending := more.head?.getD []
    let cut := !ending.isEmpty && ending ≠ name && ending.isSuffixOf name
    write (lineOf (if cut then name.take (name.length - ending.length) else name))
  | [] => setStatus 1

def dirname : Args → Doing Unit
  | path :: _ =>
    let trimmed := (path.reverse.dropWhile (· = '/')).reverse
    let above := ((trimmed.reverse.dropWhile (· ≠ '/')).dropWhile (· = '/')).reverse
    let root := Path.isAbsolute path
    write (lineOf (if above.isEmpty then (if root then ['/'] else ['.']) else above))
  | [] => setStatus 1

def touch (args : Args) : Doing Unit := do
  let mut good := true
  for name in (options args).2 do
    let e ← get
    if !e.world.files.exists? e.here (toPath name) then
      match placeOf? e name with
      | some path => placeEntry path (some (.file []))
      | none => good := false
  succeedIf good

/-- Take away all that is at a path or below it. -/
def removeAll (path : List Char) : Doing Unit := do
  let files := (← get).world.files
  for (key, _) in files do
    if key = String.ofList path || (path ++ ['/']).isPrefixOf key.toList then
      placeEntry key none

def rm (args : Args) : Doing Unit := do
  let (letters, names) := options args
  let forced := 'f' ∈ letters
  let mut good := true
  for name in names do
    let e ← get
    match e.world.files.resolve e.here (toPath name) with
    | .ok path =>
      if e.world.files.isDirectory path && !('r' ∈ letters || 'R' ∈ letters) then good := false
      else removeAll path
    | .error _ => if !forced then good := false
  succeedIf good

/-- Take away directories that are empty. -/
def rmdir (args : Args) : Doing Unit := do
  let mut good := true
  for name in (options args).2 do
    let e ← get
    match e.world.files.resolve e.here (toPath name) with
    | .ok path =>
      if e.world.files.isDirectory path && (e.world.files.list path).isEmpty then
        placeEntry (String.ofList path) none
      else good := false
    | .error _ => good := false
  succeedIf good

def mkdir (args : Args) : Doing Unit := do
  let (letters, names) := options args
  let mut good := true
  for name in names do
    let e ← get
    let cs := toPath name
    let cs := if Path.endsInSlash cs then cs.dropLast else cs
    if e.world.files.exists? e.here cs then
      if !('p' ∈ letters && e.world.files.leadsToDirectory e.here cs) then good := false
    else if 'p' ∈ letters then
      let start := if Path.isAbsolute cs then [] else Path.components e.here
      match e.world.files.reach [] (start ++ Path.components cs) with
      | some path => placeEntry (String.ofList path) (some .directory)
      | none => good := false
    else match placeOf? e (ofText (String.ofList cs)) with
      | some path => placeEntry path (some .directory)
      | none => good := false
  succeedIf good

/-- The path that a name leads to, if it leads anywhere. -/
def foundAt? (e : Env) (name : List Char) : Option (List Char) :=
  (e.world.files.resolve e.here (toPath name)).toOption

/-- The files below a path, by what follows it. -/
def below (files : Files) (path : List Char) : List (List Char × Entry) :=
  files.filterMap fun (key, entry) =>
    if (path ++ ['/']).isPrefixOf key.toList then some (key.toList.drop path.length, entry) else none

/-- Put a copy of what is at a path at another one. -/
def copyTo (source : List Char) (place : String) : Doing Unit := do
  let files := (← get).world.files
  placeEntry place ((files.find? (String.ofList source)).orElse fun _ => some .directory)
  for (rest, entry) in below files source do
    placeEntry (place ++ String.ofList rest) (some entry)

/-- Where something with a name goes: into a directory, or to a path. -/
def destination? (e : Env) (name place : List Char) : Option String := do
  if e.world.files.leadsToDirectory e.here (toPath place) then
    let last ← (Path.components name).getLast?
    placeOf? e (Path.push place last)
  else placeOf? e place

/-- Copy or move files; `moving` if they do not stay where they are. -/
def transfer (moving : Bool) (args : Args) : Doing Unit := do
  let (letters, names) := options args
  let deep := moving || letters.any (· ∈ ['r', 'R', 'a'])
  match names.getLast?, names.dropLast with
  | some place, sources =>
    let e ← get
    let intoDirectory := e.world.files.leadsToDirectory e.here (toPath place)
    if sources.isEmpty || (1 < sources.length && !intoDirectory) then setStatus 1
    else
      let mut good := true
      for source in sources do
        let e ← get
        match foundAt? e source, destination? e source place with
        | some path, some target =>
          if String.ofList path = target then good := false
          else if e.world.files.isDirectory path && !deep then good := false
          else
            copyTo path target
            if moving then removeAll path
        | _, _ => good := false
      succeedIf good
  | none, _ => setStatus 1

/-- List the names in directories. -/
def ls (args : Args) : Doing Unit := do
  let o := Offer.read ⟨['1', 'a', 'A', 'd', 'p', 'F', 'r', 'U'], [],
    [("all", 'a'), ("almost-all", 'A'), ("directory", 'd')]⟩ args
  let e ← get
  let names := if o.words.isEmpty then [['.']] else o.words
  let isThere (name : List Char) : Bool := (foundAt? e name).isSome
  let opened (name : List Char) : Bool :=
    !o.has 'd' && e.world.files.leadsToDirectory e.here (toPath name)
  let ordered (names : Args) : Args :=
    let sorted := names.mergeSort fun a b => String.ofList a ≤ String.ofList b
    if o.has 'r' then sorted.reverse else sorted
  let content (name : List Char) : Args :=
    let all := (e.world.files.list ((foundAt? e name).getD [])).map fun n => ofText (String.ofList n)
    let seen := all.filter fun n => o.has 'a' || o.has 'A' || n.head? ≠ some '.'
    ordered (if o.has 'a' then [['.'], ['.', '.']] ++ seen else seen)
  let plain := ordered (names.filter fun n => isThere n && !opened n)
  let directories := ordered (names.filter fun n => isThere n && opened n)
  let titled := 1 < names.length
  let blocks := directories.map fun n =>
    (if titled then lineOf (n ++ [':']) else []) ++ (content n).flatMap lineOf
  let blocks := if plain.isEmpty then blocks else plain.flatMap lineOf :: blocks
  let _ ← writeTo 1 (List.intercalate ['\n'] blocks)
  setStatus (if o.wrong || !names.all isThere then 2 else 0)

/-- Write the paths that names lead to. -/
def realpath (args : Args) : Doing Unit := do
  let (_, names) := options args
  let e ← get
  let found := names.map fun n =>
    match foundAt? e n with
    | some path => some (if path.isEmpty then ['/'] else ofText (String.ofList path))
    | none => (placeOf? e n).map ofText
  let _ ← writeTo 1 ((found.filterMap id).flatMap lineOf)
  succeedIf (!names.isEmpty && found.all (·.isSome))

/-- Where links lead: only those of the machine do. -/
def readlink (args : Args) : Doing Unit := do
  let (letters, names) := options args
  if letters.any (· ∈ ['f', 'e', 'm']) then realpath args
  else
    let found := names.filterMap fun n => Files.links.lookup (toText n)
    let _ ← writeTo 1 (found.flatMap fun t => lineOf (ofText (String.ofList (t.toList.drop 1))))
    succeedIf (!found.isEmpty && found.length = names.length)

/-- Make a file, or a directory, with a name of its own. -/
def mktemp (args : Args) : Doing Unit := do
  let (letters, names) := options args
  let e ← get
  let template := (names.head?).getD "/tmp/tmp.XXXXXXXXXX".toList
  let marks := (template.reverse.takeWhile (· = 'X')).length
  if marks < 3 then setStatus 1
  else
    let stem := template.take (template.length - marks)
    let named (n : Nat) : List Char :=
      let digits := Nat.toDigits 10 n
      stem ++ List.replicate (marks - digits.length) 'a' ++ digits
    let free := (List.range 1000).find? fun n => !e.world.files.exists? e.here (toPath (named n))
    match free.bind fun n => (placeOf? e (named n)).map fun path => (named n, path) with
    | some (name, path) =>
      placeEntry path (some (if 'd' ∈ letters then .directory else .file []))
      write (lineOf name)
    | none => setStatus 1

/-- Change what may be done with files, which makes no difference here. -/
def chmod (args : Args) : Doing Unit := do
  let (_, names) := options args
  let e ← get
  succeedIf (2 ≤ names.length && (names.drop 1).all fun n => (foundAt? e n).isSome)

/-- Tell where programs are. -/
def which (args : Args) : Doing Unit := do
  let (_, names) := options args
  let e ← get
  let path := toText (e.valueOf "PATH")
  let found := names.map fun name =>
    if '/' ∈ name then (Programs.at? e.world.files e.here (toPath name)).map fun _ => name
    else (Programs.places path).findSome? fun place =>
      let whole := Path.push place (toPath name)
      (Programs.at? e.world.files e.here whole).map fun _ => ofText (String.ofList whole)
  let _ ← writeTo 1 ((found.filterMap id).flatMap lineOf)
  succeedIf (!names.isEmpty && found.all (·.isSome))

/-- Tools for files by their names. -/
def fileTool? (name : String) : Option (Args → Doing Unit) :=
  match name with
  | "basename" => some basename
  | "dirname" => some dirname
  | "touch" => some touch
  | "rm" | "unlink" => some rm
  | "rmdir" => some rmdir
  | "mkdir" => some mkdir
  | "cp" => some (transfer false)
  | "mv" => some (transfer true)
  | "ls" => some ls
  | "realpath" => some realpath
  | "readlink" => some readlink
  | "mktemp" => some mktemp
  | "chmod" => some chmod
  | "which" => some which
  | _ => none

end LanguageClient.Shell
