/-!
# Diagnostics

What a server finds in a document: a severity, a message and where it applies. Lines and columns
count from zero in 32-bit words; what is shown counts from one, in the same words, and of the last
word the program cannot show what follows.
-/

namespace LanguageClient

/-- What ends the program there and then. -/
inductive Panic
  /-- A sum does not fit into its word. -/
  | overflow
  deriving DecidableEq, Repr

/-- What the program says about it. -/
def Panic.message : Panic → String
  | .overflow => "attempt to add with overflow"

inductive Severity
  | error
  | warning
  | information
  | hint
  deriving DecidableEq, Repr, Inhabited

namespace Severity

/-- The severity of a protocol number. -/
def ofNat? : Nat → Option Severity
  | 1 => some .error
  | 2 => some .warning
  | 3 => some .information
  | 4 => some .hint
  | _ => none

def isError : Severity → Bool
  | .error => true
  | _ => false

def label : Severity → String
  | .error => "error"
  | .warning => "warning"
  | .information => "info"
  | .hint => "hint"

end Severity

structure Diagnostic where
  severity : Severity
  message : String
  line : UInt32
  col : UInt32
  source : String
  deriving DecidableEq, Repr, Inhabited

namespace Diagnostic

def isError (d : Diagnostic) : Bool := d.severity.isError

/-- Where no source is given. -/
def defaultSource : String := "tekton"

/-- A position as it is shown: the next number, if there is one. -/
def shown (n : UInt32) : Except Panic String :=
  if n.toNat + 1 < UInt32.size then .ok (Nat.repr (n.toNat + 1)) else .error .overflow

/-- The location, line and column, severity, source and message on one line. -/
def displayAt (d : Diagnostic) (location : String) : Except Panic String := do
  let line ← shown d.line
  let col ← shown d.col
  return location ++ ":" ++ line ++ ":" ++ col ++ ": " ++ d.severity.label ++ ": [" ++ d.source ++
    "] " ++ d.message

end Diagnostic

end LanguageClient
