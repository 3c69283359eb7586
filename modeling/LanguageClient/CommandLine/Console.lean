import LanguageClient.Session.Basic
import LanguageClient.Text.Utf8
import LanguageClient.Uri.FilePath

/-!
# The console

What a run shows: diagnostics among its output, and everything else among its errors.
-/

namespace LanguageClient.CommandLine

/-- What ends a run before its time, and what that comes from. -/
structure Failure where
  message : String
  cause : Option String
  deriving DecidableEq, Repr

namespace Failure

def plain (message : String) : Failure := ⟨message, none⟩

/-- The failure as it is shown last. -/
def text (f : Failure) : String :=
  "Error: " ++ f.message ++
    match f.cause with
    | some cause => "\n\nCaused by:\n    " ++ cause
    | none => ""

end Failure

/-- How a run ends before its time: with a failure, or there and then. -/
inductive Ending
  | failure (f : Failure)
  | panic (p : Panic)
  deriving DecidableEq, Repr

/-- What has been written so far. -/
structure Console where
  out : String
  err : String
  deriving DecidableEq, Repr, Inhabited

namespace Console

def blank : Console := ⟨"", ""⟩

def print (c : Console) (line : String) : Console := { c with out := c.out ++ line ++ "\n" }

def warn (c : Console) (line : String) : Console := { c with err := c.err ++ line ++ "\n" }

end Console

/-- A document's place for people: its path, or its URI where it is no file. -/
def placeOf (uri : String) : String :=
  match (Uri.parse uri.toList).bind Uri.toPath with
  | some path => Text.Utf8.mend path
  | none => uri

namespace Console

/-- Show diagnostics in turn, up to the first that cannot be shown. -/
def showItems (c : Console) (place : String) : List Diagnostic → Console × Option Panic
  | [] => (c, none)
  | d :: rest =>
    match d.displayAt place with
    | .ok line => showItems (c.print line) place rest
    | .error p => (c, some p)

/-- Show the diagnostics of a document, or that it has none. -/
def showDiagnostics (c : Console) (uri : String) (items : List Diagnostic) :
    Console × Option Panic :=
  let place := placeOf uri
  if items.isEmpty then (c.print (place ++ ": clean"), none) else c.showItems place items

/-- Show events in turn; a lost connection ends the run where nothing is started again. -/
def showEvents (c : Console) (restart : RestartPolicy) : List Event → Console × Option Ending
  | [] => (c, none)
  | .diagnostics uri items :: rest =>
    match c.showDiagnostics uri items with
    | (c, none) => showEvents c restart rest
    | (c, some p) => (c, some (.panic p))
  | .connectionLost failure :: rest =>
    let c := c.warn ("tekton-ls stopped: " ++ failure.message)
    if restart = .never then
      (c, some (.failure (.plain ("language server exited: " ++ failure.message))))
    else showEvents c restart rest

end Console

end LanguageClient.CommandLine
