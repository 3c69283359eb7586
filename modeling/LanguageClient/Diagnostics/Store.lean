import LanguageClient.Diagnostics.Basic
import LanguageClient.Table

/-!
# The diagnostics store

The latest diagnostics of each document that has any. A snapshot lists the documents with errors
first, and otherwise in the order of their URIs.
-/

namespace LanguageClient

/-- Diagnostics by document; no document has an empty list. -/
structure DiagnosticsStore where
  documents : Table (List Diagnostic)
  deriving DecidableEq, Repr

namespace DiagnosticsStore

def empty : DiagnosticsStore := ⟨[]⟩

/-- Replace the diagnostics of a document; an empty list drops it. -/
def update (s : DiagnosticsStore) (uri : String) (items : List Diagnostic) : DiagnosticsStore :=
  if items.isEmpty then ⟨s.documents.erase uri⟩ else ⟨s.documents.insert uri items⟩

/-- Drop the diagnostics of a document. -/
def forget (s : DiagnosticsStore) (uri : String) : DiagnosticsStore := ⟨s.documents.erase uri⟩

end DiagnosticsStore

/-- All diagnostics at one moment. -/
structure Snapshot where
  documents : List (String × List Diagnostic)
  deriving DecidableEq, Repr

/-- Whether an entry has an error among its diagnostics. -/
def Snapshot.hasError (entry : String × List Diagnostic) : Bool := entry.2.any (·.isError)

/-- The documents with errors, then the others, each in the order of the store. -/
def DiagnosticsStore.snapshot (s : DiagnosticsStore) : Snapshot :=
  ⟨s.documents.filter Snapshot.hasError ++ s.documents.filter fun e => !Snapshot.hasError e⟩

namespace Snapshot

def get? (s : Snapshot) (uri : String) : Option (List Diagnostic) :=
  (s.documents.find? fun e => e.1 = uri).map (·.2)

def isEmpty (s : Snapshot) : Bool := s.documents.isEmpty

/-- How many diagnostics have this severity. -/
def count (s : Snapshot) (severity : Severity) : Nat :=
  s.documents.foldr (fun e n => e.2.countP (·.severity = severity) + n) 0

def errorCount (s : Snapshot) : Nat := s.count .error

def warningCount (s : Snapshot) : Nat := s.count .warning

def totalCount (s : Snapshot) : Nat := s.documents.foldr (fun e n => e.2.length + n) 0

/-- The counts of errors and warnings, or nothing for an empty snapshot. -/
def status (s : Snapshot) : String :=
  if s.isEmpty then ""
  else "E:" ++ Nat.repr s.errorCount ++ " W:" ++ Nat.repr s.warningCount

end Snapshot

end LanguageClient
