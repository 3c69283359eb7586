import LanguageClient.Json.Basic
import LanguageClient.Text.Utf8

/-!
# Reading JSON text

The reader is a machine that takes one byte at a time. Its stack holds the containers begun and not
yet ended; its mode says what the next byte may be. A fault names what was wrong and where: the
line, and the column counted in bytes from the line's start.
-/

namespace LanguageClient.Json

/-- A place in a text: line from one, and how many bytes of the line have been read. -/
structure Position where
  line : Nat
  column : Nat
  deriving DecidableEq, Repr

namespace Position

def start : Position := ⟨1, 0⟩

def next (p : Position) (b : UInt8) : Position :=
  if b = 0x0A then ⟨p.line + 1, 0⟩ else ⟨p.line, p.column + 1⟩

end Position

/-- What can be wrong with a JSON text. -/
inductive Fault
  | endInArray
  | endInObject
  | endInString
  | endInValue
  | colonExpected
  | commaOrBracketExpected
  | commaOrBraceExpected
  | wordExpected
  | valueExpected
  | badEscape
  | badNumber
  | numberOutOfRange
  | badUnicode
  | controlCharacter
  | keyExpected
  | loneSurrogate
  | trailingComma
  | trailingCharacters
  | hexEscapeEnded
  | tooDeep
  deriving DecidableEq, Repr

def Fault.message : Fault → String
  | .endInArray => "EOF while parsing a list"
  | .endInObject => "EOF while parsing an object"
  | .endInString => "EOF while parsing a string"
  | .endInValue => "EOF while parsing a value"
  | .colonExpected => "expected `:`"
  | .commaOrBracketExpected => "expected `,` or `]`"
  | .commaOrBraceExpected => "expected `,` or `\x7d`"
  | .wordExpected => "expected ident"
  | .valueExpected => "expected value"
  | .badEscape => "invalid escape"
  | .badNumber => "invalid number"
  | .numberOutOfRange => "number out of range"
  | .badUnicode => "invalid unicode code point"
  | .controlCharacter =>
    "control character (\\u0000-\\u001F) found while parsing a string"
  | .keyExpected => "key must be a string"
  | .loneSurrogate => "lone leading surrogate in hex escape"
  | .trailingComma => "trailing comma"
  | .trailingCharacters => "trailing characters"
  | .hexEscapeEnded => "unexpected end of hex escape"
  | .tooDeep => "recursion limit exceeded"

/-- Why a text is not JSON. -/
structure ReadError where
  fault : Fault
  place : Position
  deriving DecidableEq, Repr

def ReadError.message (e : ReadError) : String :=
  e.fault.message ++ " at line " ++ Nat.repr e.place.line ++ " column " ++ Nat.repr e.place.column

/-! ### Numbers -/

/-- Integers up to here are kept digit by digit; of longer ones only the scale is. -/
def maxSignificand : Nat := 0xFFFFFFFFFFFFFFFF

/-- A number part way through. Scales are powers of ten. -/
inductive Numeral
  /-- A minus sign was read. -/
  | sign
  /-- A leading zero was read. -/
  | zero
  | whole (n : Nat)
  /-- Digits past the largest significand were dropped. -/
  | long (n : Nat) (scale : Int)
  /-- A point was read, and then perhaps digits. -/
  | point (n : Nat) (scale : Int) (digits : Bool)
  /-- Places past the largest significand are dropped. -/
  | places (n : Nat) (scale : Int)
  /-- The letter of an exponent was read. -/
  | mark (n : Nat) (scale : Int)
  /-- The sign of an exponent was read. -/
  | markSign (n : Nat) (scale : Int) (up : Bool)
  | power (n : Nat) (scale : Int) (up : Bool) (exponent : Nat)
  /-- The exponent is too large, and the number zero. -/
  | vanished

/-- What a numeral does with the next byte. -/
inductive Numeral.Next
  | more (n : Numeral)
  /-- The byte is no part of the number. -/
  | ended
  | fault (f : Fault)

def isDigit (b : UInt8) : Bool := 0x30 ≤ b && b ≤ 0x39

def digitValue (b : UInt8) : Nat := b.toNat - 0x30

def isExponentLetter (b : UInt8) : Bool := b = 0x65 || b = 0x45

/-- Largest exponent that is counted; beyond it a number is zero or out of range. -/
def maxExponent : Nat := 0x7FFFFFFF

namespace Numeral

def step (b : UInt8) : Numeral → Next
  | .sign =>
    if b = 0x30 then .more .zero
    else if isDigit b then .more (.whole (digitValue b))
    else .fault .badNumber
  | .zero =>
    if isDigit b then .fault .badNumber
    else if b = 0x2E then .more (.point 0 0 false)
    else if isExponentLetter b then .more (.mark 0 0)
    else .ended
  | .whole n =>
    if isDigit b then
      if n * 10 + digitValue b ≤ maxSignificand then .more (.whole (n * 10 + digitValue b))
      else .more (.long n 1)
    else if b = 0x2E then .more (.point n 0 false)
    else if isExponentLetter b then .more (.mark n 0)
    else .ended
  | .long n scale =>
    if isDigit b then .more (.long n (scale + 1))
    else if b = 0x2E then .more (.point n scale false)
    else if isExponentLetter b then .more (.mark n scale)
    else .ended
  | .point n scale digits =>
    if isDigit b then
      if n * 10 + digitValue b ≤ maxSignificand then
        .more (.point (n * 10 + digitValue b) (scale - 1) true)
      else .more (.places n scale)
    else if !digits then .fault .badNumber
    else if isExponentLetter b then .more (.mark n scale)
    else .ended
  | .places n scale =>
    if isDigit b then .more (.places n scale)
    else if isExponentLetter b then .more (.mark n scale)
    else .ended
  | .mark n scale =>
    if b = 0x2B then .more (.markSign n scale true)
    else if b = 0x2D then .more (.markSign n scale false)
    else if isDigit b then .more (.power n scale true (digitValue b))
    else .fault .badNumber
  | .markSign n scale up =>
    if isDigit b then .more (.power n scale up (digitValue b)) else .fault .badNumber
  | .power n scale up exponent =>
    if isDigit b then
      if exponent * 10 + digitValue b ≤ maxExponent then
        .more (.power n scale up (exponent * 10 + digitValue b))
      else if n ≠ 0 && up then .fault .numberOutOfRange
      else .more .vanished
    else .ended
  | .vanished => if isDigit b then .more .vanished else .ended

/-- `10 ^ k` as a double, for `k` up to 308. -/
def powerOfTen (k : Nat) : Float := Float.ofScientific 1 false k

/--
`n * 10 ^ scale` as a double, by one rounding of `n` and one of each product or quotient; `none`
when it is too large. Three quotients by `10 ^ 308` make any significand vanish.
-/
def scaled (f : Float) (scale : Int) : Nat → Option Float
  | 0 => some f
  | fuel + 1 =>
    if scale.natAbs ≤ 308 then
      if 0 ≤ scale then
        let product := f * powerOfTen scale.natAbs
        if product.isInf then none else some product
      else some (f / powerOfTen scale.natAbs)
    else if f == 0 then some f
    else if 0 ≤ scale then none
    else scaled (f / powerOfTen 308) (scale + 308) fuel

def double (negative : Bool) (n : Nat) (scale : Int) : Except Fault Json :=
  match scaled n.toUInt64.toFloat scale 4 with
  | none => .error .numberOutOfRange
  | some f => .ok (.double (if negative then -f else f).toBits)

/-- The number that a numeral stands for when no byte follows that belongs to it. -/
def value (negative : Bool) : Numeral → Except Fault Json
  | .sign | .point _ _ false | .mark _ _ | .markSign _ _ _ => .error .endInValue
  | .zero => if negative then double true 0 0 else .ok (.int 0)
  | .whole n =>
    if !negative then .ok (.int n)
    else if n ≤ 0x8000000000000000 then .ok (.int (-n))
    else double true n 0
  | .long n scale | .point n scale true | .places n scale => double negative n scale
  | .power n scale up exponent =>
    double negative n (if up then scale + exponent else scale - exponent)
  | .vanished => double negative 0 0

end Numeral

/-! ### Strings -/

/-- An escape part way through. -/
inductive Escape
  /-- No escape is open. -/
  | none
  | backslash
  /-- Digits of a hexadecimal escape, and the high surrogate before it. -/
  | hex (digits : List UInt8) (high : Option Nat)
  /-- A high surrogate was read; a backslash must follow. -/
  | high (unit : Nat)
  /-- A high surrogate and a backslash were read; the letter must follow. -/
  | highMark (unit : Nat)

def hexValue (b : UInt8) : Option Nat :=
  if isDigit b then some (digitValue b)
  else if 0x41 ≤ b && b ≤ 0x46 then some (b.toNat - 0x37)
  else if 0x61 ≤ b && b ≤ 0x66 then some (b.toNat - 0x57)
  else .none

/-- The UTF-8 bytes of a code point below `0x110000`. -/
def utf8Encode (n : Nat) : List UInt8 :=
  if n < 0x80 then [n.toUInt8]
  else if n < 0x800 then [(0xC0 + n / 64).toUInt8, (0x80 + n % 64).toUInt8]
  else if n < 0x10000 then
    [(0xE0 + n / 4096).toUInt8, (0x80 + n / 64 % 64).toUInt8, (0x80 + n % 64).toUInt8]
  else
    [(0xF0 + n / 262144).toUInt8, (0x80 + n / 4096 % 64).toUInt8, (0x80 + n / 64 % 64).toUInt8,
      (0x80 + n % 64).toUInt8]

/-- A string part way through; the bytes that it stands for so far are in reverse. -/
structure Literal where
  read : List UInt8
  escape : Escape

/-- What a string does with the next byte. -/
inductive Literal.Next
  | more (l : Literal)
  | ended (read : List UInt8)
  | fault (f : Fault)
  /-- A fault that was complete `back` bytes before this byte. -/
  | earlier (f : Fault) (back : Nat)

/-- The four digits of a hexadecimal escape, the last one first. -/
def hexUnit : List UInt8 → Option Nat
  | [] => some 0
  | b :: rest => do return (← hexUnit rest) * 16 + (← hexValue b)

namespace Literal

def start : Literal := ⟨[], .none⟩

/-- A complete hexadecimal escape: a code unit, after a high surrogate or not. -/
def closeHex (read digits : List UInt8) (high : Option Nat) : Next :=
  match hexUnit digits, high with
  | .none, _ => .fault .badEscape
  | some unit, .none =>
    if 0xDC00 ≤ unit && unit ≤ 0xDFFF then .fault .loneSurrogate
    else if 0xD800 ≤ unit && unit ≤ 0xDBFF then .more ⟨read, .high unit⟩
    else .more ⟨(utf8Encode unit).reverse ++ read, .none⟩
  | some unit, some lead =>
    if unit < 0xDC00 || 0xDFFF < unit then .fault .loneSurrogate
    else
      let point := (lead - 0xD800) * 1024 + (unit - 0xDC00) + 0x10000
      .more ⟨(utf8Encode point).reverse ++ read, .none⟩

/-- The byte that a one-letter escape stands for. -/
def simpleEscape (b : UInt8) : Option UInt8 :=
  if b = 0x22 || b = 0x5C || b = 0x2F then some b
  else if b = 0x62 then some 0x08
  else if b = 0x66 then some 0x0C
  else if b = 0x6E then some 0x0A
  else if b = 0x72 then some 0x0D
  else if b = 0x74 then some 0x09
  else .none

/--
The end of a string. Only now are its bytes checked; the fault is placed as many bytes before the
end as there are from the first byte to blame to the last.
-/
def close (l : Literal) : Next :=
  match Text.Utf8.fault? l.read.reverse with
  | some f => .earlier .badUnicode (l.read.length - f.index - 1)
  | .none => .ended l.read

def step (l : Literal) (b : UInt8) : Next :=
  match l.escape with
  | .none =>
    if b = 0x22 then l.close
    else if b = 0x5C then .more ⟨l.read, .backslash⟩
    else if b < 0x20 then .fault .controlCharacter
    else .more ⟨b :: l.read, .none⟩
  | .backslash =>
    if b = 0x75 then .more ⟨l.read, .hex [] .none⟩
    else match simpleEscape b with
      | some c => .more ⟨c :: l.read, .none⟩
      | .none => .fault .badEscape
  | .hex digits high =>
    if digits.length < 3 then .more ⟨l.read, .hex (b :: digits) high⟩
    else closeHex l.read (b :: digits) high
  | .high unit =>
    if b = 0x5C then .more ⟨l.read, .highMark unit⟩ else .fault .hexEscapeEnded
  | .highMark unit =>
    if b = 0x75 then .more ⟨l.read, .hex [] (some unit)⟩ else .fault .hexEscapeEnded

end Literal

/-- The text of bytes that were read in reverse. -/
def textOf (read : List UInt8) : Option String := String.fromUTF8? ⟨read.reverse.toArray⟩

/-! ### The machine -/

/-- A container begun and not yet ended. -/
inductive Frame
  /-- The items so far, the last one first. -/
  | arr (items : List Json)
  | obj (fields : List (String × Json))
  /-- A field whose value is being read. -/
  | member (fields : List (String × Json)) (key : String)

/-- What may come next. -/
inductive Mode
  | value
  /-- After an opening bracket. -/
  | firstItem
  /-- After a comma in an array. -/
  | item
  /-- After an opening brace. -/
  | firstKey
  /-- After a comma in an object. -/
  | key
  | colon (key : String)
  /-- After a value in a container. -/
  | separator
  /-- After the whole value. -/
  | done (v : Json)
  /-- The bytes left of a literal. -/
  | word (rest : List UInt8) (v : Json)
  | number (negative : Bool) (n : Numeral)
  | string (isKey : Bool) (l : Literal)

structure Reader where
  stack : List Frame
  mode : Mode

/-- Containers may be nested below this depth. -/
def maxDepth : Nat := 128

/-- What the machine does with a byte. -/
inductive Next
  | more (r : Reader)
  /-- A fault at this byte. -/
  | fault (f : Fault)
  /-- A fault that was complete `back` bytes before this byte. -/
  | earlier (f : Fault) (back : Nat)

def isBlank (b : UInt8) : Bool := b = 0x20 || b = 0x0A || b = 0x09 || b = 0x0D

namespace Reader

def start : Reader := ⟨[], .value⟩

/-- A value has ended inside the given containers. -/
def complete (v : Json) : List Frame → Reader
  | .arr items :: rest => ⟨.arr (v :: items) :: rest, .separator⟩
  | .member fields key :: rest => ⟨.obj (Table.insert key v fields) :: rest, .separator⟩
  | stack => ⟨stack, .done v⟩

/-- The first byte of a value. -/
def beginValue (stack : List Frame) (b : UInt8) : Next :=
  if b = 0x22 then .more ⟨stack, .string false .start⟩
  else if b = 0x5B then
    if stack.length + 1 < maxDepth then .more ⟨.arr [] :: stack, .firstItem⟩ else .fault .tooDeep
  else if b = 0x7B then
    if stack.length + 1 < maxDepth then .more ⟨.obj [] :: stack, .firstKey⟩ else .fault .tooDeep
  else if b = 0x2D then .more ⟨stack, .number true .sign⟩
  else if b = 0x30 then .more ⟨stack, .number false .zero⟩
  else if isDigit b then .more ⟨stack, .number false (.whole (digitValue b))⟩
  else if b = 0x6E then .more ⟨stack, .word [0x75, 0x6C, 0x6C] .null⟩
  else if b = 0x74 then .more ⟨stack, .word [0x72, 0x75, 0x65] (.bool true)⟩
  else if b = 0x66 then .more ⟨stack, .word [0x61, 0x6C, 0x73, 0x65] (.bool false)⟩
  else .fault .valueExpected

/-- A byte after a value in a container. -/
def separate (stack : List Frame) (b : UInt8) : Next :=
  match stack with
  | .arr items :: rest =>
    if b = 0x5D then .more (complete (.arr items.reverse) rest)
    else if b = 0x2C then .more ⟨.arr items :: rest, .item⟩
    else .fault .commaOrBracketExpected
  | .obj fields :: rest =>
    if b = 0x7D then .more (complete (.obj fields) rest)
    else if b = 0x2C then .more ⟨.obj fields :: rest, .key⟩
    else .fault .commaOrBraceExpected
  | _ => .fault .trailingCharacters

/-- A byte that is not blank, in a mode between tokens. -/
def token (stack : List Frame) (b : UInt8) : Mode → Next
  | .value => beginValue stack b
  | .firstItem =>
    if b = 0x5D then
      match stack with
      | .arr items :: rest => .more (complete (.arr items.reverse) rest)
      | _ => .fault .valueExpected
    else beginValue stack b
  | .item => if b = 0x5D then .fault .trailingComma else beginValue stack b
  | .firstKey =>
    if b = 0x7D then
      match stack with
      | .obj fields :: rest => .more (complete (.obj fields) rest)
      | _ => .fault .keyExpected
    else if b = 0x22 then .more ⟨stack, .string true .start⟩
    else .fault .keyExpected
  | .key =>
    if b = 0x22 then .more ⟨stack, .string true .start⟩
    else if b = 0x7D then .fault .trailingComma
    else .fault .keyExpected
  | .colon key =>
    if b = 0x3A then
      match stack with
      | .obj fields :: rest => .more ⟨.member fields key :: rest, .value⟩
      | _ => .fault .colonExpected
    else .fault .colonExpected
  | .separator => separate stack b
  | _ => .fault .trailingCharacters

/-- A byte between tokens, where blanks are skipped. -/
def between (stack : List Frame) (mode : Mode) (b : UInt8) : Next :=
  if isBlank b then .more ⟨stack, mode⟩ else token stack b mode

def step (r : Reader) (b : UInt8) : Next :=
  match r.mode with
  | .word (x :: rest) v =>
    if b ≠ x then .fault .wordExpected
    else if rest.isEmpty then .more (complete v r.stack)
    else .more ⟨r.stack, .word rest v⟩
  | .word [] v => let after := complete v r.stack; between after.stack after.mode b
  | .number negative n =>
    match n.step b with
    | .more n => .more ⟨r.stack, .number negative n⟩
    | .fault f => .fault f
    | .ended =>
      match n.value negative with
      | .error f => .earlier f 0
      | .ok v => let after := complete v r.stack; between after.stack after.mode b
  | .string isKey l =>
    match l.step b with
    | .more l => .more ⟨r.stack, .string isKey l⟩
    | .fault f => .fault f
    | .earlier f back => .earlier f back
    | .ended read =>
      match textOf read with
      | none => .fault .badUnicode
      | some s =>
        if isKey then .more ⟨r.stack, .colon s⟩ else .more (complete (.str s) r.stack)
  | mode => between r.stack mode b

/-- The text ends here. -/
def finish (r : Reader) : Except Fault Json :=
  match r.mode with
  | .done v => .ok v
  | .value | .item | .key | .word _ _ => .error .endInValue
  | .firstItem => .error .endInArray
  | .firstKey | .colon _ => .error .endInObject
  | .string _ _ => .error .endInString
  | .separator =>
    match r.stack with
    | .arr _ :: _ => .error .endInArray
    | _ => .error .endInObject
  | .number negative n =>
    match n.value negative with
    | .error f => .error f
    | .ok v =>
      match complete v r.stack with
      | ⟨_, .done v⟩ => .ok v
      | ⟨.arr _ :: _, _⟩ => .error .endInArray
      | _ => .error .endInObject

def run (r : Reader) (place : Position) : List UInt8 → Except ReadError Json
  | [] => r.finish.mapError (⟨·, place⟩)
  | b :: rest =>
    match r.step b with
    | .more r => run r (place.next b) rest
    | .fault f => .error ⟨f, place.next b⟩
    | .earlier f back => .error ⟨f, place.line, place.column - back⟩

end Reader

/-- The value that a JSON text stands for. -/
def parse (text : List UInt8) : Except ReadError Json := Reader.start.run .start text

end LanguageClient.Json
