/-!
# Broken UTF-8

Where a sequence of bytes stops being UTF-8, and how many bytes of the broken character are to
blame: those that could have begun a character, and at least one. A text that is shown all the same
has a mark in place of each broken character.
-/

namespace LanguageClient.Text.Utf8

/-- The first place where bytes are not UTF-8. -/
structure Fault where
  /-- How many bytes before it are. -/
  index : Nat
  /-- The bytes to blame; nothing when the bytes end inside a character. -/
  length : Option Nat
  deriving DecidableEq, Repr

def Fault.message (f : Fault) : String :=
  match f.length with
  | some n =>
    "invalid utf-8 sequence of " ++ Nat.repr n ++ " bytes from index " ++ Nat.repr f.index
  | none => "incomplete utf-8 byte sequence from index " ++ Nat.repr f.index

/-- A character part way through: the bytes seen, the range of the next, and how many follow it. -/
structure Open where
  seen : Nat
  low : UInt8
  high : UInt8
  after : Nat

/-- What the first byte of a longer character asks for. -/
def lead (b : UInt8) : Option Open :=
  if 0xC2 ≤ b && b ≤ 0xDF then some ⟨1, 0x80, 0xBF, 0⟩
  else if b = 0xE0 then some ⟨1, 0xA0, 0xBF, 1⟩
  else if b = 0xED then some ⟨1, 0x80, 0x9F, 1⟩
  else if 0xE1 ≤ b && b ≤ 0xEF then some ⟨1, 0x80, 0xBF, 1⟩
  else if b = 0xF0 then some ⟨1, 0x90, 0xBF, 2⟩
  else if 0xF1 ≤ b && b ≤ 0xF3 then some ⟨1, 0x80, 0xBF, 2⟩
  else if b = 0xF4 then some ⟨1, 0x80, 0x8F, 2⟩
  else none

def scan : Nat → Option Open → List UInt8 → Option Fault
  | _, none, [] => none
  | index, some o, [] => some ⟨index - o.seen, none⟩
  | index, none, b :: rest =>
    if b < 0x80 then scan (index + 1) none rest
    else match lead b with
      | none => some ⟨index, some 1⟩
      | some o => scan (index + 1) (some o) rest
  | index, some o, b :: rest =>
    if o.low ≤ b && b ≤ o.high then
      if o.after = 0 then scan (index + 1) none rest
      else scan (index + 1) (some ⟨o.seen + 1, 0x80, 0xBF, o.after - 1⟩) rest
    else some ⟨index - o.seen, some o.seen⟩

/-- The first place where the bytes are not UTF-8, if there is one. -/
def fault? (bytes : List UInt8) : Option Fault := scan 0 none bytes

/-- The character that stands for a broken one. -/
def replacement : Char := '\ufffd'

/-- The characters of bytes that are UTF-8. -/
def chars (bytes : List UInt8) : List Char :=
  ((String.fromUTF8? ⟨bytes.toArray⟩).getD "").toList

/-- The characters of bytes, each broken one replaced; as much fuel as there are bytes is enough. -/
def mended : Nat → List UInt8 → List Char
  | 0, _ => []
  | fuel + 1, bytes =>
    match fault? bytes with
    | none => chars bytes
    | some ⟨index, none⟩ => chars (bytes.take index) ++ [replacement]
    | some ⟨index, some length⟩ =>
      chars (bytes.take index) ++ replacement :: mended fuel (bytes.drop (index + length))

/-- The text of bytes, each broken character replaced. -/
def mend (bytes : List UInt8) : String := String.ofList (mended (bytes.length + 1) bytes)

end LanguageClient.Text.Utf8
