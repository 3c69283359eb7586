import LanguageClient.Path
import LanguageClient.Session.Basic

/-!
# Client configuration

What a user may set about a session, in a file in which everything can be left out.
-/

namespace LanguageClient

structure Config where
  id : String
  name : String
  /-- The workspace; the current directory when there is none. -/
  root : Option String
  mode : LaunchMode
  handshake : Duration
  shutdown : Duration
  restart : RestartPolicy
  server : RawLaunch
  /-- The rules that say which documents are the server's; the stock ones when there are none. -/
  selector : Option (List RawFilter)

namespace Config

/-- The stock configuration. -/
def stock : Config :=
  let options := Options.stock ""
  { id := options.id
    name := options.name
    root := none
    mode := options.mode
    handshake := options.handshake
    shutdown := options.shutdown
    restart := options.restart
    server := .stock
    selector := none }

/-- What a session is made of. -/
structure Parts where
  launch : RawLaunch
  selector : Selector
  options : Options

/-- The workspace as an absolute path, seen from the directory `here`. An empty path stays empty. -/
def workspace (here : List Char) : Option String → String
  | none => String.ofList here
  | some root => ((Path.absolute? here root.toList).map String.ofList).getD root

def options (c : Config) (here : List Char) : Options where
  id := c.id
  name := c.name
  root := workspace here c.root
  mode := c.mode
  handshake := c.handshake
  shutdown := c.shutdown
  restart := c.restart

/-- Take a configuration apart; only the rules are checked. -/
def parts (c : Config) (here : List Char) : Except ConfigurationError Parts := do
  let selector ← match c.selector with
    | none => pure .stock
    | some raw => Selector.ofRaw raw
  return ⟨c.server, selector, c.options here⟩

end Config

end LanguageClient
