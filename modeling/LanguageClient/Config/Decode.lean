import LanguageClient.Config.Basic
import LanguageClient.Toml.Reader

/-!
# Configuration from TOML

Records are read as they are from JSON, with more freedom in two places: a choice may be a table
that has its name for the only key and nothing in it, and a record in an array may have more items
than it has fields.
-/

namespace LanguageClient.Config

/-- A choice as it would be in JSON. -/
def bareChoice : Json → Json
  | .obj [(name, .obj [])] | .obj [(name, .arr [])] => .obj [(name, .null)]
  | j => j

/-- Items of an array past those of a record are left out. -/
def cutItems (count : Nat) : Json → Json
  | .arr items => .arr (items.take count)
  | j => j

/-- Change the field of a name, or the item of a place. -/
def modifyField (name : String) (place : Nat) (f : Json → Json) : Json → Json
  | .obj fields => .obj (fields.map fun (key, v) => if key = name then (key, f v) else (key, v))
  | .arr items => .arr (items.modify place f)
  | j => j

def decodeServer (j : Json) : Except Json.DecodeError RawLaunch :=
  RawLaunch.decode (modifyField "transport" 2 bareChoice (cutItems RawLaunch.shape.fields.length j))

def decodeFilter (j : Json) : Except Json.DecodeError RawFilter :=
  RawFilter.decode (cutItems RawFilter.shape.fields.length j)

mutual

/-- Whether all integers of a value fit a signed or unsigned word of 64 bits. -/
def hasWords : Json → Bool
  | .int n => -0x8000000000000000 ≤ n && n < 0x10000000000000000
  | .arr items => itemsHaveWords items
  | .obj fields => fieldsHaveWords fields
  | _ => true

def itemsHaveWords : List Json → Bool
  | [] => true
  | j :: rest => hasWords j && itemsHaveWords rest

def fieldsHaveWords : List (String × Json) → Bool
  | [] => true
  | (_, j) :: rest => hasWords j && fieldsHaveWords rest

end

/-- A policy is read as a whole, so nothing in it may be too large. -/
def decodeRestart (j : Json) : Except Json.DecodeError RestartPolicy :=
  if hasWords j then RestartPolicy.decode j else Json.unfit j "integers of 64 bits"

open Json.Decode in
def shape : Shape Config where
  name := "struct ClientConfig"
  fields := [
    ⟨["id"], .defaulted, fun c j => return { c with id := ← string j }⟩,
    ⟨["name"], .defaulted, fun c j => return { c with name := ← string j }⟩,
    ⟨["root"], .defaulted, fun c j => return { c with root := some (← string j) }⟩,
    ⟨["mode"], .defaulted, fun c j => return { c with mode := ← LaunchMode.decode (bareChoice j) }⟩,
    ⟨["handshake_timeout_ms"], .defaulted, fun c j => return { c with handshake := ⟨← word64 j⟩ }⟩,
    ⟨["shutdown_timeout_ms"], .defaulted, fun c j => return { c with shutdown := ⟨← word64 j⟩ }⟩,
    ⟨["restart"], .defaulted, fun c j => return { c with restart := ← decodeRestart j }⟩,
    ⟨["server"], .defaulted, fun c j => return { c with server := ← decodeServer j }⟩,
    ⟨["document_selector"], .defaulted,
      fun c j => return { c with selector := some (← list decodeFilter j) }⟩]

/-- The configuration that a text sets; nothing when it is not TOML or does not fit. -/
def ofText (text : String) : Option Config := do
  (shape.read stock (← Toml.parse text.toList)).toOption

end LanguageClient.Config
