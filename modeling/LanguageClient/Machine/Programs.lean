import LanguageClient.Files

/-!
# Programs

The programs that a machine has, and where they are looked for.
-/

namespace LanguageClient.Programs

/-- The names of the programs. -/
def names : List String := [
  "[", "arch", "base64", "basename", "bash", "cat", "chmod", "cmp", "cp", "cut", "dash", "dd",
  "dirname", "echo", "egrep", "env", "expr", "false", "fgrep", "fold", "grep", "head", "hostname",
  "id", "kill", "ls", "mkdir", "mktemp", "mv", "nice", "nl", "nohup", "nproc", "od", "paste",
  "printenv", "printf", "pwd", "python3", "readlink", "realpath", "rev", "rm", "rmdir", "sed",
  "seq", "setsid", "sh", "sleep", "sort", "stdbuf", "sync", "tac", "tail", "tee", "test",
  "timeout", "touch", "tr", "true", "uname", "uniq", "unlink", "wc", "which", "whoami", "xargs",
  "yes"]

/-- The directory in which they are. -/
def directory : String := "/usr/bin"

/-- The path of a program. -/
def pathOf (name : String) : String := directory ++ "/" ++ name

/-- The directories that every machine has. -/
def directories : List String := [
  "/dev", "/etc", "/home", "/mnt", "/opt", "/proc", "/root", "/run", "/srv", "/sys", "/tmp",
  "/usr/bin", "/usr/include", "/usr/lib", "/usr/local/bin", "/usr/local/lib", "/usr/sbin",
  "/usr/share", "/usr/src", "/var/cache", "/var/lib", "/var/log", "/var/tmp"]

/-- The files that every machine has. -/
def files : List String := [
  "/dev/null", "/etc/group", "/etc/hostname", "/etc/hosts", "/etc/passwd", "/etc/resolv.conf"]

/-- Files together with what every machine has. -/
def install (own : Files) : Files :=
  let add (entry : Entry) (t : Files) (path : String) : Files :=
    if (t.find? path).isNone then t.insert path entry else t
  (files ++ names.map pathOf).foldl (add (.file [])) (directories.foldl (add .directory) own)

/-- Where programs are looked for. -/
def places (path : String) : List (List Char) := Text.splitOn ':' path.toList

/-- The program at a path. -/
def at? (files : Files) (here path : List Char) : Option String :=
  match files.resolve here path with
  | .ok found => names.find? fun name => (pathOf name).toList = found
  | .error _ => none

/-- The program of a command: a name that is looked for, or the path of the program. -/
def find? (files : Files) (path : String) (here : List Char) (command : String) : Option String :=
  let name := command.toList
  if '/' ∈ name then at? files here name
  else if name.isEmpty then none
  else (places path).findSome? fun place => at? files here (Path.push place name)

end LanguageClient.Programs
