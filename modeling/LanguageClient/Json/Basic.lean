import LanguageClient.Table

/-!
# JSON values

Integers are those of a signed or unsigned 64-bit word; any other number is a binary64 number, kept
as its bits. The fields of an object stand in key order.
-/

namespace LanguageClient

inductive Json where
  | null
  | bool (b : Bool)
  | int (n : Int)
  | double (bits : UInt64)
  | str (s : String)
  | arr (items : List Json)
  | obj (fields : List (String × Json))
  deriving BEq, Inhabited

namespace Json

/-- The field `name` of an object; nothing for any other value. -/
def get? (name : String) : Json → Option Json
  | .obj fields => Table.find? name fields
  | _ => none

/-- The integers that fit an unsigned 64-bit word. -/
def nat? : Json → Option Nat
  | .int n => if 0 ≤ n && n < 0x10000000000000000 then some n.toNat else none
  | _ => none

def str? : Json → Option String
  | .str s => some s
  | _ => none

def items? : Json → Option (List Json)
  | .arr items => some items
  | _ => none

/-- An object from fields in any order; of two equal names the later one counts. -/
def ofFields (fields : List (String × Json)) : Json :=
  .obj (fields.foldl (fun t (name, value) => Table.insert name value t) [])

def ofNat (n : Nat) : Json := .int n

end Json

end LanguageClient
