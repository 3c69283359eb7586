import LanguageClient.Diagnostics.Store
import LanguageClient.Duration
import LanguageClient.Lifecycle
import LanguageClient.Message
import LanguageClient.Selector

/-!
# Sessions

What a host gives a session and gets from it: options, document notices, events and the answers of
its calls.
-/

namespace LanguageClient

/-- What a session is told besides how to launch its server. -/
structure Options where
  /-- Stands in the log and in what the client says about itself. -/
  id : String
  name : String
  /-- The workspace. -/
  root : String
  mode : LaunchMode
  /-- How long a server may take to answer the handshake. -/
  handshake : Duration
  /-- How long it may take to answer a shutdown, and again to exit. -/
  shutdown : Duration
  restart : RestartPolicy
  deriving DecidableEq, Repr, Inhabited

/-- The stock options for a workspace. -/
def Options.stock (root : String) : Options where
  id := "tekton-ls"
  name := "Tekton Pipelines Language Server"
  root := root
  mode := .run
  handshake := ⟨30000⟩
  shutdown := ⟨2000⟩
  restart := .never

/-- Something that a host may want to act on. -/
inductive Event
  /-- The diagnostics of a document have been replaced. -/
  | diagnostics (uri : String) (items : List Diagnostic)
  /-- The connection broke while the session was running. -/
  | connectionLost (failure : RuntimeFailure)
  deriving DecidableEq, Repr

/-- What became of a document call. -/
inductive Forwarded
  | sent
  /-- The selector does not admit the document. -/
  | outOfScope
  /-- The server was never told about the document that is closed. -/
  | notOpen
  deriving DecidableEq, Repr, Inhabited

/-- Why a document call failed. -/
inductive NotifyError
  | notRunning (label : String)
  | connectionClosed (method : String)
  deriving DecidableEq, Repr, Inhabited

def NotifyError.message : NotifyError → String
  | .notRunning label => "session is not running (state: " ++ label ++ ")"
  | .connectionClosed method => "connection closed while sending " ++ method

/-! ### Documents -/

/-- A document as the server was last told about it. -/
structure OpenDocument where
  languageId : String
  version : Int
  text : String
  deriving DecidableEq, Repr, Inhabited

namespace OpenDocument

/-- The largest version; counting stops there. -/
def maxVersion : Int := 0x7FFFFFFF

/-- The version after `version`. -/
def nextVersion (version : Int) : Int := min (version + 1) maxVersion

end OpenDocument

/-- What a server is told about a document. -/
inductive Notice
  | opened (uri : String) (doc : OpenDocument)
  | changed (uri : String) (doc : OpenDocument)
  | closed (uri : String)
  deriving DecidableEq, Repr

namespace Notice

def method : Notice → String
  | .opened _ _ => "textDocument/didOpen"
  | .changed _ _ => "textDocument/didChange"
  | .closed _ => "textDocument/didClose"

def params : Notice → Json
  | .opened uri doc => Message.didOpenParams uri doc.languageId doc.version doc.text
  | .changed uri doc => Message.didChangeParams uri doc.version doc.text
  | .closed uri => Message.didCloseParams uri

def frame (n : Notice) : Json := Message.notification n.method (some n.params)

/-- The notice that brings the server's text of a document up to date: a first one opens the
document. -/
def sync (tracked : Table OpenDocument) (doc : Document) (text : String) : Notice :=
  match tracked.find? doc.uri with
  | some before =>
    .changed doc.uri ⟨doc.languageId, OpenDocument.nextVersion before.version, text⟩
  | none => .opened doc.uri ⟨doc.languageId, 1, text⟩

/-- The documents that the server knows of once it has the notice. -/
def apply (tracked : Table OpenDocument) : Notice → Table OpenDocument
  | .opened uri doc | .changed uri doc => tracked.insert uri doc
  | .closed uri => tracked.erase uri

end Notice

/-! ### Setting up -/

/-- What stays the same through the life of a session. -/
structure Setup where
  launch : Launch
  selector : Selector
  options : Options
  /-- The client's process number, which servers watch. -/
  processId : Nat

namespace Setup

/-- A session is set up once its launch configuration has been checked. -/
def make (raw : RawLaunch) (selector : Selector) (options : Options) (processId : Nat) :
    Except ConfigurationError Setup :=
  return ⟨← Launch.ofRaw raw, selector, options, processId⟩

/-- The command that obtains the server. -/
def command (s : Setup) : ServerCommand := s.launch.commandFor s.options.mode

end Setup

end LanguageClient
