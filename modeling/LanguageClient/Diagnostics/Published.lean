import LanguageClient.Diagnostics.Basic
import LanguageClient.Json.Decode

/-!
# What servers send

The parameters of published diagnostics and of messages for the log.
-/

namespace LanguageClient

/-- Diagnostics for a document, in place of those published before. -/
structure Published where
  uri : String
  version : Option Int
  items : List Diagnostic
  deriving DecidableEq, Repr

namespace Published

open Json.Decode

/-- Where a diagnostic starts. -/
structure Start where
  line : UInt32
  character : UInt32

def startShape : Shape Start where
  name := "struct LspPosition"
  fields := [
    ⟨["line"], .required, fun s j => return { s with line := ← word32 j }⟩,
    ⟨["character"], .required, fun s j => return { s with character := ← word32 j }⟩]

def noStart : Start := ⟨0, 0⟩

/-- Of a range only its start is kept. -/
def rangeShape : Shape Start where
  name := "struct LspRange"
  fields := [⟨["start"], .required, fun _ j => startShape.read noStart j⟩]

/-- A diagnostic as it is sent. -/
structure Item where
  start : Start
  severity : Option Nat
  source : Option String
  message : String

def itemShape : Shape Item where
  name := "struct LspDiagnostic"
  fields := [
    ⟨["range"], .required, fun i j => return { i with start := ← rangeShape.read noStart j }⟩,
    ⟨["severity"], .optional, fun i j => return { i with severity := ← option word64 j }⟩,
    ⟨["source"], .optional, fun i j => return { i with source := ← option string j }⟩,
    ⟨["message"], .required, fun i j => return { i with message := ← string j }⟩]

/-- A severity that is missing or unknown counts as a warning. -/
def Item.diagnostic (i : Item) : Diagnostic where
  severity := (i.severity.bind Severity.ofNat?).getD .warning
  message := i.message
  line := i.start.line
  col := i.start.character
  source := i.source.getD Diagnostic.defaultSource

def item : Json.Decode Diagnostic := fun j =>
  return (← itemShape.read ⟨noStart, none, none, ""⟩ j).diagnostic

def shape : Shape Published where
  name := "struct PublishDiagnosticsParams"
  fields := [
    ⟨["uri"], .required, fun p j => return { p with uri := ← string j }⟩,
    ⟨["version"], .defaulted, fun p j => return { p with version := ← option signed32 j }⟩,
    ⟨["diagnostics"], .required, fun p j => return { p with items := ← list item j }⟩]

def decode : Json.Decode Published := shape.read ⟨"", none, []⟩

end Published

/-- A message that a server wants logged or shown. -/
structure ServerMessage where
  kind : UInt8
  text : String
  deriving DecidableEq, Repr

namespace ServerMessage

open Json.Decode

def shape : Shape ServerMessage where
  name := "struct MessageParams"
  fields := [
    ⟨["type"], .required, fun m j => return { m with kind := ← word8 j }⟩,
    ⟨["message"], .required, fun m j => return { m with text := ← string j }⟩]

def decode : Json.Decode ServerMessage := shape.read ⟨0, ""⟩

end ServerMessage

end LanguageClient
