import LanguageClient.Frame
import LanguageClient.Message
import LanguageClient.Machine.Process.Basic

/-!
# Scripts

A script says what a server does about a frame of each method. Frames in a script may leave places
to be filled in from the frame that they answer.
-/

namespace LanguageClient

namespace Json

mutual

/-- A value with some of its strings replaced. -/
def fill (value? : String → Option Json) : Json → Json
  | .str s => (value? s).getD (.str s)
  | .arr items => .arr (fillItems value? items)
  | .obj fields => .obj (fillFields value? fields)
  | j => j

def fillItems (value? : String → Option Json) : List Json → List Json
  | [] => []
  | j :: rest => fill value? j :: fillItems value? rest

def fillFields (value? : String → Option Json) : List (String × Json) → List (String × Json)
  | [] => []
  | (name, j) :: rest => (name, fill value? j) :: fillFields value? rest

end

/-- The value that a path of field names leads to. -/
def at? : List String → Json → Option Json
  | [], j => some j
  | name :: rest, j => (j.get? name).bind (at? rest)

end Json

/-- What a script says that a server does. -/
inductive Direction
  | send (frame : Json)
  | raw (bytes : List UInt8)
  | pause (millis : Nat)
  /-- Go away: both pipes end. -/
  | leave
  | stall

/-- What to do about the methods that are listed. -/
abbrev Script := Table (List Direction)

namespace Script

/-- An answer that leaves a place for the number of the request. -/
def answer (result : Json) : Direction := .send (Message.response (.str "$id") result)

/-- What a server says about itself. -/
def welcome : Json := .ofFields [
  ("capabilities", .ofFields [("textDocumentSync", .int 1)]),
  ("serverInfo", .ofFields [("name", .str "tekton-ls"), ("version", .str "0.0.1")])]

/-- What a server does about methods that a script does not list: it shakes hands and takes its
leave. -/
def stock : String → List Direction
  | "initialize" => [answer welcome]
  | "shutdown" => [answer .null]
  | "exit" => [.leave]
  | _ => []

/-- What stands in the places of an answer to a frame. -/
def place? (frame : Json) : String → Option Json
  | "$id" => some ((frame.get? "id").getD .null)
  | "$uri" => some ((frame.at? ["params", "textDocument", "uri"]).getD .null)
  | _ => none

/-- What a direction comes to when it answers a frame. -/
def act (frame : Json) : Direction → Act
  | .send template => .write (Frame.encode (template.fill (place? frame)))
  | .raw bytes => .write bytes
  | .pause millis => .pause millis
  | .leave => .exit (.exited 0)
  | .stall => .stall

/-- What a server does about a frame. -/
def respond (script : Script) (frame : Json) : List Act :=
  match (frame.get? "method").bind Json.str? with
  | none => []
  | some method => ((script.find? method).getD (stock method)).map (act frame)

end Script

end LanguageClient
