import LanguageClient.Config.Decode
import LanguageClient.Files

/-!
# The configuration file

Where the configuration is looked for, and what can go wrong about it.
-/

namespace LanguageClient.Config

/-- The variable that says where the file is. -/
def locationVariable : String := "TEKTON_CLIENT_CONFIG"

/-- Where the file is: where the variable says, or in the user's home if it says nothing. -/
def location (explicit home : Option String) : Option String :=
  match explicit.filter (· ≠ "") with
  | some path => some path
  | none => home.map fun h =>
    String.ofList (Path.push (Path.push h.toList ".tekton".toList) "client.toml".toList)

/-- Why there is no configuration to be had from a file. -/
inductive Fault
  | unreadable (path : String) (fault : Files.Fault)
  | malformed (path : String)
  deriving DecidableEq, Repr

def Fault.path : Fault → String
  | .unreadable path _ | .malformed path => path

def Fault.message : Fault → String
  | .unreadable path fault => "failed to read " ++ path ++ ": " ++ fault.message
  | .malformed path => "failed to parse " ++ path

/-- The configuration in a file. -/
def load (files : Files) (here : List Char) (path : String) : Except Fault Config := do
  let text ← (files.readText here path.toList).mapError (.unreadable path)
  match ofText text with
  | some c => return c
  | none => throw (.malformed path)

/-- The configuration at a place where there need not be a file. -/
def load? (files : Files) (here : List Char) (path : Option String) :
    Except Fault (Option Config) :=
  match path with
  | none => .ok none
  | some path =>
    if files.exists? here path.toList then some <$> load files here path else .ok none

end LanguageClient.Config
