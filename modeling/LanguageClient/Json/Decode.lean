import LanguageClient.Json.Printer
import LanguageClient.Text.Quoted

/-!
# Typed values from JSON

A record is read from an object, whose fields are visited in key order and whose unknown fields are
passed over, or from an array of its fields in order. The first thing that does not fit is reported.
-/

namespace LanguageClient.Json

/-- What was found where something else was expected. -/
inductive Found
  | null
  | bool (b : Bool)
  | int (n : Int)
  | double (bits : UInt64)
  | str (s : String)
  | sequence
  | map
  deriving DecidableEq, Repr

namespace Found

def of : Json → Found
  | .null => .null
  | .bool b => .bool b
  | .int n => .int n
  | .double bits => .double bits
  | .str s => .str s
  | .arr _ => .sequence
  | .obj _ => .map

def text : Found → String
  | .null => "null"
  | .bool b => if b then "boolean `true`" else "boolean `false`"
  | .int n => "integer `" ++ String.ofList (intText n) ++ "`"
  | .double bits => "floating point `" ++ String.ofList (doubleText bits) ++ "`"
  | .str s => "string " ++ Text.quoteString s
  | .sequence => "sequence"
  | .map => "map"

end Found

/-- Why a JSON value is not one of the wanted type. -/
inductive DecodeError
  | invalidType (found : Found) (expected : String)
  | invalidValue (found : Found) (expected : String)
  | invalidLength (length : Nat) (expected : String)
  | missingField (name : String)
  | duplicateField (name : String)
  | unknownVariant (name : String) (known : List String)
  deriving DecidableEq, Repr

/-- Names of which one was expected. -/
def oneOf (names : List String) : String :=
  match names.map fun n => "`" ++ n ++ "`" with
  | [] => "there are no variants"
  | [a] => "expected " ++ a
  | [a, b] => "expected " ++ a ++ " or " ++ b
  | all => "expected one of " ++ String.intercalate ", " all

def DecodeError.message : DecodeError → String
  | .invalidType found expected =>
    "invalid type: " ++ found.text ++ ", expected " ++ expected
  | .invalidValue found expected =>
    "invalid value: " ++ found.text ++ ", expected " ++ expected
  | .invalidLength length expected =>
    "invalid length " ++ Nat.repr length ++ ", expected " ++ expected
  | .missingField name => "missing field `" ++ name ++ "`"
  | .duplicateField name => "duplicate field `" ++ name ++ "`"
  | .unknownVariant name known => "unknown variant `" ++ name ++ "`, " ++ oneOf known

abbrev Decode (α : Type) := Json → Except DecodeError α

/-- The error of a value that is of no expected type. -/
def unfit {α : Type} (j : Json) (expected : String) : Except DecodeError α :=
  .error (.invalidType (.of j) expected)

namespace Decode

/-! ### Scalars -/

def string : Decode String
  | .str s => .ok s
  | j => unfit j "a string"

/-- An integer from `low` to `high`; `name` is the type's. -/
def integer (name : String) (low high : Int) : Decode Int
  | .int n => if low ≤ n && n ≤ high then .ok n else .error (.invalidValue (.int n) name)
  | j => unfit j name

def word8 : Decode UInt8 := fun j => return (← integer "u8" 0 0xFF j).toNat.toUInt8
def word16 : Decode UInt16 := fun j => return (← integer "u16" 0 0xFFFF j).toNat.toUInt16
def word32 : Decode UInt32 := fun j => return (← integer "u32" 0 0xFFFFFFFF j).toNat.toUInt32
def word64 : Decode Nat := fun j => return (← integer "u64" 0 0xFFFFFFFFFFFFFFFF j).toNat
def signed32 : Decode Int := integer "i32" (-0x80000000) 0x7FFFFFFF

/-- A value or null. -/
def option {α : Type} (decode : Decode α) : Decode (Option α)
  | .null => .ok none
  | j => some <$> decode j

def list {α : Type} (decode : Decode α) : Decode (List α)
  | .arr items => items.mapM decode
  | j => unfit j "a sequence"

/-! ### Choices -/

/-- The choice of the given name. -/
def choose {α : Type} (choices : List (String × α)) (name : String) : Except DecodeError α :=
  match choices.lookup name with
  | some a => .ok a
  | none => .error (.unknownVariant name (choices.map (·.1)))

/-- One of several names, bare or as the only key of an object with no value. -/
def choice {α : Type} (choices : List (String × α)) : Decode α
  | .str name => choose choices name
  | .obj [(name, value)] => do
    let a ← choose choices name
    match value with
    | .null => .ok a
    | other => unfit other "unit"
  | .obj _ => .error (.invalidValue .map "map with a single key")
  | j => unfit j "string or map"

/-! ### Records -/

/-- Whether a field has to be there. -/
inductive Presence
  | required
  /-- May be missing from an object, not from an array. -/
  | optional
  | defaulted
  deriving DecidableEq, Repr

/-- A field of a record: its names, the proper one first, and how it is set. -/
structure Field (σ : Type) where
  names : List String
  presence : Presence
  set : σ → Json → Except DecodeError σ

def Field.name {σ : Type} (f : Field σ) : String := f.names.headD ""

/-- A record type as it is read: its name and its fields in order. -/
structure Shape (σ : Type) where
  name : String
  fields : List (Field σ)

namespace Shape

variable {σ : Type}

/-- The record's name and how many fields it has. -/
def expectation (shape : Shape σ) : String :=
  let n := shape.fields.length
  shape.name ++ " with " ++ Nat.repr n ++ (if n = 1 then " element" else " elements")

/-- The record from the fields of an object, and the names set. -/
def setFields (shape : Shape σ) :
    σ → List String → List (String × Json) → Except DecodeError (σ × List String)
  | record, seen, [] => .ok (record, seen)
  | record, seen, (key, value) :: rest =>
    match shape.fields.find? fun f => key ∈ f.names with
    | none => setFields shape record seen rest
    | some f => do
      if f.name ∈ seen then throw (.duplicateField f.name)
      setFields shape (← f.set record value) (f.name :: seen) rest

/-- The record from the items of an array; `index` counts those taken. -/
def setItems (shape : Shape σ) (total index : Nat) :
    σ → List (Field σ) → List Json → Except DecodeError σ
  | record, [], [] => .ok record
  | _, [], _ :: _ => .error (.invalidLength total "fewer elements in array")
  | record, f :: fs, [] =>
    if f.presence = .defaulted then setItems shape total (index + 1) record fs []
    else .error (.invalidLength index shape.expectation)
  | record, f :: fs, v :: vs => do setItems shape total (index + 1) (← f.set record v) fs vs

/-- A record, starting from one that has the values of the fields not given. -/
def read (shape : Shape σ) (blank : σ) : Decode σ
  | .obj fields => do
    let (record, seen) ← shape.setFields blank [] fields
    match shape.fields.find? fun f => f.presence = .required && !(f.name ∈ seen) with
    | some f => throw (.missingField f.name)
    | none => return record
  | .arr items => shape.setItems items.length 0 blank shape.fields items
  | j => unfit j shape.name

end Shape

end Decode

end LanguageClient.Json
