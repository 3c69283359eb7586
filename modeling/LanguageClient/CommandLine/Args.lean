/-!
# Command-line arguments

Flags and files in any order. The argument after `--config` is a path, whatever it looks like.
-/

namespace LanguageClient.CommandLine

/-- What the arguments ask for. -/
structure Args where
  debug : Bool
  /-- The configuration file, where one is named. -/
  config : Option String
  files : List String
  deriving DecidableEq, Repr, Inhabited

/-- Why arguments are refused. -/
inductive ArgsError
  /-- They ask how to use the program. -/
  | help
  | missingPath
  | unknownOption (flag : String)
  deriving DecidableEq, Repr

def usage : String := "usage: tekton-client [--debug] [--config PATH] [FILE...]"

def ArgsError.message : ArgsError → String
  | .help => usage
  | .missingPath => "--config needs a path"
  | .unknownOption flag => "unknown option " ++ flag ++ "\n" ++ usage

namespace Args

def empty : Args := ⟨false, none, []⟩

/-- Whether an argument has the form of a flag. -/
def isFlag (arg : String) : Bool := "--".toList.isPrefixOf arg.toList

/-- Read arguments on top of those that have been read. -/
def parseOnto (args : Args) : List String → Except ArgsError Args
  | [] => .ok args
  | "--config" :: path :: rest => parseOnto { args with config := some path } rest
  | arg :: rest =>
    if arg = "--debug" then parseOnto { args with debug := true } rest
    else if arg = "--config" then .error .missingPath
    else if arg = "-h" || arg = "--help" then .error .help
    else if isFlag arg then .error (.unknownOption arg)
    else parseOnto { args with files := args.files ++ [arg] } rest

def parse (args : List String) : Except ArgsError Args := parseOnto empty args

end Args

end LanguageClient.CommandLine
