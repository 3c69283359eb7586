/-!
# The life of a session

A session is created, starts, runs, stops and may start again; a start that fails and a connection
that breaks leave it failed, with the cause.
-/

namespace LanguageClient

/-- Why a session did not start. -/
inductive StartError
  | launchFailed (command reason : String)
  | handshakeFailed (reason : String)
  deriving DecidableEq, Repr, Inhabited

def StartError.message : StartError → String
  | .launchFailed command reason => "failed to launch '" ++ command ++ "': " ++ reason
  | .handshakeFailed reason => "initialize handshake failed: " ++ reason

/-- What went wrong while stopping; the session is stopped all the same. -/
structure StopError where
  reason : String
  deriving DecidableEq, Repr, Inhabited

def StopError.message (e : StopError) : String := "server did not shut down cleanly: " ++ e.reason

/-- How a running connection broke. -/
inductive RuntimeFailure
  | processExited
  | streamError (reason : String)
  deriving DecidableEq, Repr, Inhabited

def RuntimeFailure.message : RuntimeFailure → String
  | .processExited => "server process exited unexpectedly"
  | .streamError reason => "server stream failed: " ++ reason

/-- What put a session into the failed phase. -/
inductive FailureCause
  | start (e : StartError)
  | runtime (f : RuntimeFailure)
  deriving DecidableEq, Repr, Inhabited

def FailureCause.message : FailureCause → String
  | .start e => e.message
  | .runtime f => f.message

/-- Where a session is in its life. -/
inductive Phase
  | created
  | starting
  | running
  | stopping
  | stopped
  | failed (cause : FailureCause)
  deriving DecidableEq, Repr, Inhabited

namespace Phase

/-- Whether a start launches a server. -/
def canStart : Phase → Bool
  | .created | .stopped | .failed _ => true
  | _ => false

def isActive : Phase → Bool
  | .starting | .running => true
  | _ => false

def isRunning : Phase → Bool
  | .running => true
  | _ => false

def failure? : Phase → Option FailureCause
  | .failed cause => some cause
  | _ => none

def label : Phase → String
  | .created => "created"
  | .starting => "starting"
  | .running => "running"
  | .stopping => "stopping"
  | .stopped => "stopped"
  | .failed _ => "failed"

def text : Phase → String
  | .failed cause => "failed: " ++ cause.message
  | phase => phase.label

end Phase

/-- How severe a log entry is. -/
inductive Level
  | trace
  | debug
  | info
  | warn
  | error
  deriving DecidableEq, Repr, Inhabited

def Level.name : Level → String
  | .trace => "TRACE"
  | .debug => "DEBUG"
  | .info => "INFO"
  | .warn => "WARN"
  | .error => "ERROR"

end LanguageClient
