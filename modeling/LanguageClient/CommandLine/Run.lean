import LanguageClient.CommandLine.Args
import LanguageClient.CommandLine.Console
import LanguageClient.Config.File
import LanguageClient.Machine
import LanguageClient.Rehearsal.Run

/-!
# Running the client

The client on the command line starts a server, opens files and shows what the server has to say
about them, until it is interrupted or the server is gone for good.
-/

namespace LanguageClient.CommandLine

/-! ### Before the session -/

/-- The user's home; an empty variable counts as none. -/
def home (m : Machine) : String :=
  match m.vars.find? "HOME" with
  | some path => if path = "" then "/root" else path
  | none => "/root"

/-- Where the configuration is when no argument says so. -/
def configLocation (m : Machine) : Option String :=
  Config.location (m.vars.find? Config.locationVariable) (some (home m))

/-- The log in a directory. -/
def logIn (directory : List Char) : List Char :=
  Path.push (Path.push directory "logs".toList) "client.log".toList

/-- Where the log may be: beside the configuration, or else under the current directory. -/
def logCandidates (m : Machine) : List (List Char) :=
  ((configLocation m).bind fun path => Path.parent? path.toList).toList.map logIn ++
    [logIn ".tekton".toList]

/-- Begin a log at the first of some places where there can be one. -/
def openLog (m : Machine) (places : List (List Char)) : Machine :=
  match places.findSome? fun path => m.files.put m.here path (.file []) with
  | some (files, _) => { m with files }
  | none => m

/-- The failure of a configuration file. -/
def configFailure (f : Config.Fault) : Failure :=
  match f with
  | .unreadable _ fault => ⟨f.message, some fault.message⟩
  | .malformed _ => .plain f.message

/-- The configuration that the arguments ask for. -/
def loadConfig (m : Machine) (args : Args) : Except Failure Config := do
  let config ← match args.config with
    | some path => (Config.load m.files m.here path).mapError configFailure
    | none => do
      let found ← (Config.load? m.files m.here (configLocation m)).mapError configFailure
      pure (found.getD .stock)
  return if args.debug then { config with mode := .debug } else config

/-- The number of the client's process. -/
def processId : Nat := 4242

/-- The session that arguments and configuration set up. -/
def setUp (m : Machine) (args : List String) : Except Failure (Args × Setup) := do
  let args ← (Args.parse args).mapError fun e => .plain e.message
  let config ← loadConfig m args
  let plain (e : ConfigurationError) : Failure := .plain e.message
  let parts ← (config.parts m.here).mapError plain
  let setup ← (Setup.make parts.launch parts.selector parts.options processId).mapError plain
  return (args, setup)

/-! ### Documents -/

/-- The language of a file by its extension. -/
def languageOf (path : String) : String :=
  match (Path.extension? path.toList).map String.ofList with
  | some "yaml" | some "yml" => "yaml"
  | some "json" => "json"
  | _ => "plaintext"

/-- The document that a file is. -/
def documentOf (here : List Char) (path : String) : Except Failure Document := do
  let some absolute := Path.absolute? here path.toList
    | throw ⟨"resolving " ++ path, some "cannot make an empty path absolute"⟩
  let some uri := Uri.ofPath absolute
    | throw (.plain (String.ofList absolute ++ " cannot be expressed as a file URI"))
  let some document := Document.ofUri (String.ofList uri) (languageOf path)
    | throw (.plain ("invalid document URI " ++ String.ofList uri))
  return document

/-- A file as a document and its text. -/
def readDocument (m : Machine) (path : String) : Except Failure (Document × String) := do
  let document ← documentOf m.here path
  let text ← (m.files.readText m.here path.toList).mapError fun fault =>
    ⟨"reading " ++ path, some fault.message⟩
  return (document, text)

/-! ### The session -/

/-- A run part way through. -/
structure Run where
  rehearsal : Rehearsal
  console : Console

/-- Open files in turn, up to the first that fails. -/
def openFiles (m : Machine) (s : Run) : List String → Run × Option Failure
  | [] => (s, none)
  | path :: rest =>
    match readDocument m path with
    | .error f => (s, some f)
    | .ok (document, text) =>
      let (rehearsal, outcome) := s.rehearsal.call (.sync true document text)
      let s := { s with rehearsal }
      match outcome with
      | some (.document (.error e)) => (s, some (.plain e.message))
      | some (.document (.ok .sent)) => openFiles m s rest
      | _ =>
        let line := path ++ ": not handled by the Tekton server, skipped"
        openFiles m { s with console := s.console.warn line } rest

/-- How many events are taken at once. -/
def eventBudget : Nat := 64

/-- How often events are looked for, in milliseconds. -/
def tick : Nat := 100

/-- Nobody waits for so many ticks. -/
def patience : Nat := 36000

/-- Show events until the run is interrupted or ends. -/
def watch : Nat → Run → Run × Option Ending
  | 0, s => (s, none)
  | fuel + 1, s =>
    if s.rehearsal.interrupted then (s, none)
    else
      let (rehearsal, events) := s.rehearsal.poll eventBudget
      let (console, ending) := s.console.showEvents rehearsal.setup.options.restart events
      match ending with
      | some e => (⟨rehearsal, console⟩, some e)
      | none =>
        let (rehearsal, _) :=
          rehearsal.runUntil (·.interrupted) (rehearsal.now + tick) Rehearsal.patience
        watch fuel ⟨rehearsal, console⟩

/-- Stop the session; what is wrong about that is a warning. -/
def finish (s : Run) : Run :=
  let status := s.rehearsal.session.store.snapshot.status
  let console := if status = "" then s.console else s.console.warn status
  let (rehearsal, outcome) := s.rehearsal.call .deactivate
  match outcome with
  | some (.stop (.error e)) => ⟨rehearsal, console.warn ("Warning: " ++ e.message)⟩
  | _ => ⟨rehearsal, console⟩

/-- Run a session on files. It is stopped in the end, unless the program is gone by then. -/
def runSession (m : Machine) (files : List String) (setup : Setup) : Console × Option Ending :=
  let r := ((m.rehearsal setup).must .activate).wake
  let (r, outcome) := r.call .started
  match outcome with
  | some (.start (.error e)) => (.blank, some (.failure (.plain e.message)))
  | _ =>
    let (s, failure) := openFiles m ⟨r, .blank⟩ files
    let (s, ending) := match failure with
      | some f => (s, some (Ending.failure f))
      | none => watch patience s
    match ending with
    | some (.panic p) => (s.console, some (.panic p))
    | _ => ((finish s).console, ending)

/-! ### All of it -/

/-- What a run leaves behind. -/
structure Result where
  code : Nat
  console : Console
  machine : Machine

/-- Run the client. -/
def run (m : Machine) (args : List String) : Result :=
  let m := openLog m (logCandidates m)
  let (console, ending) := match setUp m args with
    | .error f => (Console.blank, some (Ending.failure f))
    | .ok (args, setup) => runSession m args.files setup
  match ending with
  | some (.failure f) => ⟨1, console.warn f.text, m⟩
  | some (.panic p) => ⟨101, console.warn p.message, m⟩
  | none => ⟨0, console, m⟩

end LanguageClient.CommandLine
