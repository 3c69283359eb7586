import LanguageClient.Json.Basic

/-!
# Protocol messages

The requests, notifications and replies that a client writes, and the classification of the frames
that it reads.
-/

namespace LanguageClient

/-- A frame from the server. -/
inductive Incoming
  | response (id : Nat) (body : Json)
  | request (id : Json) (method : String) (params : Option Json)
  | notification (method : String) (params : Option Json)

/--
The kind of a frame: a method and an id make a request, a method alone a notification, and an id
with a result or an error a response, provided that it is one a client could have issued.
-/
def Incoming.classify (frame : Json) : Option Incoming :=
  match frame.get? "id", (frame.get? "method").bind Json.str? with
  | some id, none =>
    if (frame.get? "result").isSome || (frame.get? "error").isSome then
      id.nat?.map (.response · frame)
    else none
  | some id, some method => some (.request id method (frame.get? "params"))
  | none, some method => some (.notification method (frame.get? "params"))
  | none, none => none

namespace Message

/-- The code of the error that a method is not known. -/
def methodNotFound : Int := -32601

def version : String × Json := ("jsonrpc", .str "2.0")

/-- A field that is left out when it has no value. -/
def field? (name : String) : Option Json → List (String × Json)
  | some v => [(name, v)]
  | none => []

def request (id : Nat) (method : String) (params : Option Json) : Json :=
  .ofFields ([version, ("id", .ofNat id), ("method", .str method)] ++ field? "params" params)

def notification (method : String) (params : Option Json) : Json :=
  .ofFields ([version, ("method", .str method)] ++ field? "params" params)

def response (id result : Json) : Json := .ofFields [version, ("id", id), ("result", result)]

def errorResponse (id : Json) (code : Int) (message : String) : Json :=
  .ofFields [version, ("id", id),
    ("error", .ofFields [("code", .int code), ("message", .str message)])]

/-! ### Parameters -/

/-- The version that the client announces. -/
def clientVersion : String := "0.0.0"

/-- What the client tells a server about itself and its workspace. -/
def initializeParams (processId : Nat) (rootUri clientName workspaceName : String) : Json :=
  let off := Json.bool false
  let on := Json.bool true
  .ofFields [
    ("processId", .ofNat processId),
    ("clientInfo", .ofFields [("name", .str clientName), ("version", .str clientVersion)]),
    ("rootUri", .str rootUri),
    ("capabilities", .ofFields [
      ("workspace", .ofFields [("configuration", on), ("workspaceFolders", on)]),
      ("textDocument", .ofFields [
        ("synchronization", .ofFields [("dynamicRegistration", off), ("willSave", off),
          ("willSaveWaitUntil", off), ("didSave", off)]),
        ("publishDiagnostics", .ofFields [("relatedInformation", off), ("versionSupport", on)])]),
      ("window", .ofFields [("workDoneProgress", on)])]),
    ("trace", .str "off"),
    ("workspaceFolders", .arr [.ofFields [("uri", .str rootUri), ("name", .str workspaceName)]])]

def didOpenParams (uri languageId : String) (version : Int) (text : String) : Json :=
  .ofFields [("textDocument", .ofFields [("uri", .str uri), ("languageId", .str languageId),
    ("version", .int version), ("text", .str text)])]

/-- One change that carries the whole text. -/
def didChangeParams (uri : String) (version : Int) (text : String) : Json :=
  .ofFields [("textDocument", .ofFields [("uri", .str uri), ("version", .int version)]),
    ("contentChanges", .arr [.ofFields [("text", .str text)]])]

def didCloseParams (uri : String) : Json :=
  .ofFields [("textDocument", .ofFields [("uri", .str uri)])]

/-! ### Replies -/

/-- Methods that are acknowledged without being acted on. -/
def acknowledged : List String :=
  ["client/registerCapability", "client/unregisterCapability", "window/workDoneProgress/create"]

/-- The method that asks for configuration. -/
def configurationMethod : String := "workspace/configuration"

/-- How many configuration items a server asks for. -/
def configurationItems (params : Option Json) : Nat :=
  (((params.bind (Json.get? "items")).bind Json.items?).map List.length).getD 0

/--
The answer to a request of the server, which might wait for it: a null for each configuration item,
null where there is nothing to do, and an error for any other method.
-/
def reply (id : Json) (method : String) (params : Option Json) : Json :=
  if method = configurationMethod then
    response id (.arr (List.replicate (configurationItems params) .null))
  else if method ∈ acknowledged then response id .null
  else errorResponse id methodNotFound ("Method not found: " ++ method)

end Message

end LanguageClient
