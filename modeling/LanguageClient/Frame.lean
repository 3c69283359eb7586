import LanguageClient.Json.Printer
import LanguageClient.Json.Reader
import LanguageClient.Text.Blank
import LanguageClient.Text.Quoted
import LanguageClient.Text.Utf8

/-!
# Message frames

A frame is a block of header lines, a blank line and a body of exactly as many bytes as the
`Content-Length` header says. `Frame.encode` writes a value as a frame. `Frame.Decoder` reads frames
byte by byte, so how the bytes arrive in chunks cannot matter.
-/

namespace LanguageClient.Frame

/-- Bodies are no longer than this, eight mebibytes. -/
def maxBody : Nat := 8 * 1024 * 1024

def lengthName : List Char := "Content-Length".toList

/-- The bytes of the header of a body of `length` bytes. -/
def header (length : Nat) : List UInt8 :=
  Json.ascii (lengthName ++ [':', ' '] ++ Nat.toDigits 10 length ++ ['\r', '\n', '\r', '\n'])

/-- A value as a frame. -/
def encode (v : Json) : List UInt8 :=
  let body := v.encode
  header body.length ++ body

/-! ### Header lines -/

/-- Why a text is not a length. -/
inductive LengthFault
  | empty
  | badDigit
  | tooLarge
  deriving DecidableEq, Repr

def LengthFault.message : LengthFault → String
  | .empty => "cannot parse integer from empty string"
  | .badDigit => "invalid digit found in string"
  | .tooLarge => "number too large to fit in target type"

/-- What makes a read fail. -/
inductive Fault
  | notText (fault : Text.Utf8.Fault)
  | endInHeader
  | malformedLine (line : List Char)
  | badLength (value : List Char) (fault : LengthFault)
  | noLength
  | tooLong (length : Nat)
  | endInBody
  | badBody (error : Json.ReadError)
  deriving DecidableEq

def Fault.message : Fault → String
  | .notText fault => "reading header line: " ++ fault.message
  | .endInHeader => "stream closed inside header block"
  | .malformedLine line => "malformed header line: " ++ String.ofList (Text.quote line)
  | .badLength value fault =>
    "invalid Content-Length value " ++ String.ofList (Text.quote value) ++ ": " ++ fault.message
  | .noLength => "header block without Content-Length"
  | .tooLong length =>
    "Content-Length " ++ Nat.repr length ++ " exceeds maximum " ++ Nat.repr maxBody
  | .endInBody => "reading message body: early eof"
  | .badBody error => "parsing JSON-RPC message: " ++ error.message

/-- Lengths fit a 64-bit word. -/
def wordLimit : Nat := 0x10000000000000000

/-- Digits, the most significant first, read onto `n`. -/
def readDigits : Nat → List Char → Except LengthFault Nat
  | n, [] => .ok n
  | n, c :: rest =>
    if !c.isDigit then .error .badDigit
    else if n * 10 + (c.toNat - 48) < wordLimit then readDigits (n * 10 + (c.toNat - 48)) rest
    else .error .tooLarge

/-- A length: digits, with a plus sign allowed before them. -/
def readLength : List Char → Except LengthFault Nat
  | [] => .error .empty
  | '+' :: [] => .error .badDigit
  | '+' :: digits => readDigits 0 digits
  | digits => readDigits 0 digits

/-- A character with upper-case ASCII letters made lower-case. -/
def foldCase (c : Char) : Char := if 'A' ≤ c && c ≤ 'Z' then Char.ofNat (c.toNat + 32) else c

/-- Whether a header of this name gives the length. -/
def isLengthName (name : List Char) : Bool :=
  (Text.trim name).map foldCase = lengthName.map foldCase

/-- The length that a header line gives, if it is the line that does. -/
def lineLength (line : List Char) : Except Fault (Option Nat) :=
  match line.dropWhile (· ≠ ':') with
  | [] => .error (.malformedLine line)
  | _ :: value =>
    if isLengthName (line.takeWhile (· ≠ ':')) then
      let value := Text.trim value
      match readLength value with
      | .ok n => .ok (some n)
      | .error fault => .error (.badLength value fault)
    else .ok none

/-! ### The decoder -/

/-- What a read gives. -/
inductive Read
  | message (v : Json)
  /-- The stream ended between frames. -/
  | ended
  | fault (f : Fault)

/-- A frame part way through. Bytes read so far stand in reverse. -/
inductive Decoder
  /-- In a header line; `length` is what the lines before it gave, `first` that there are none. -/
  | line (read : List UInt8) (length : Option Nat) (first : Bool)
  /-- In a body of which `left` more bytes are to come. -/
  | body (read : List UInt8) (left : Nat)

namespace Decoder

/-- Between frames. -/
def start : Decoder := .line [] none true

/-- A body that is complete. -/
def close (body : List UInt8) : Read :=
  match Json.parse body with
  | .ok v => .message v
  | .error e => .fault (.badBody e)

/-- The header block has ended. -/
def beginBody : Option Nat → Decoder × Option Read
  | none => (start, some (.fault .noLength))
  | some n =>
    if maxBody < n then (start, some (.fault (.tooLong n)))
    else if n = 0 then (start, some (close []))
    else (.body [] n, none)

/-- A header line is complete, its line end included. -/
def endLine (read : List UInt8) (length : Option Nat) : Decoder × Option Read :=
  let bytes := read.reverse
  match Text.Utf8.fault? bytes with
  | some f => (start, some (.fault (.notText f)))
  | none =>
    let text := (String.fromUTF8? ⟨bytes.toArray⟩).getD ""
    match Text.dropEnd (fun c => c = '\r' || c = '\n') text.toList with
    | [] => beginBody length
    | content =>
      match lineLength content with
      | .error f => (start, some (.fault f))
      | .ok found => (.line [] (found <|> length) false, none)

/-- Take one byte; a frame that it completes, or that it shows to be broken, is given out. -/
def push (d : Decoder) (b : UInt8) : Decoder × Option Read :=
  match d with
  | .line read length first =>
    if b = 0x0A then endLine (b :: read) length else (.line (b :: read) length first, none)
  | .body read left =>
    if left ≤ 1 then (start, some (close (b :: read).reverse))
    else (.body (b :: read) (left - 1), none)

/-- What a read gives when the stream ends here. -/
def finish : Decoder → Read
  | .line [] _ true => .ended
  | .line [] _ false => .fault .endInHeader
  | .line read length _ =>
    match endLine read length with
    | (_, some r) => r
    | (.line _ _ _, none) => .fault .endInHeader
    | (.body _ _, none) => .fault .endInBody
  | .body _ _ => .fault .endInBody

/-- Take bytes up to the end of a read; the bytes after it are left. -/
def feed (d : Decoder) : List UInt8 → Decoder × Option Read × List UInt8
  | [] => (d, none, [])
  | b :: rest =>
    match d.push b with
    | (d, some r) => (d, some r, rest)
    | (d, none) => feed d rest

end Decoder

/-- One read of a stream, and what it leaves unread. -/
def read (stream : List UInt8) : Read × List UInt8 :=
  match Decoder.start.feed stream with
  | (_, some r, rest) => (r, rest)
  | (d, none, _) => (d.finish, [])

/-- As many reads of a stream as asked for, whatever they give. -/
def readMany : Nat → List UInt8 → List Read
  | 0, _ => []
  | n + 1, stream => let (r, rest) := read stream; r :: readMany n rest

/-! ### Chunks -/

/-- A reader over a stream that arrives in chunks: the frame begun, and the chunks not yet taken. -/
structure Chunked where
  decoder : Decoder
  chunks : List (List UInt8)

/-- Take chunks up to the end of a read. -/
def takeChunks (d : Decoder) : List (List UInt8) → Read × Chunked
  | [] => (d.finish, ⟨.start, []⟩)
  | chunk :: rest =>
    match d.feed chunk with
    | (d, some r, left) => (r, ⟨d, left :: rest⟩)
    | (d, none, _) => takeChunks d rest

/-- One read of a stream in chunks. -/
def Chunked.read (c : Chunked) : Read × Chunked := takeChunks c.decoder c.chunks

/-- As many reads of a stream in chunks as asked for. -/
def Chunked.readMany (c : Chunked) : Nat → List Read
  | 0 => []
  | n + 1 => let (r, c) := c.read; r :: c.readMany n

/-- Reads up to the first that gives no message. -/
def Chunked.readAll (c : Chunked) : Nat → List Read
  | 0 => []
  | fuel + 1 =>
    match c.read with
    | (.message v, c) => .message v :: c.readAll fuel
    | (r, _) => [r]

/-- Bytes cut into pieces of `size`, the last one perhaps shorter. -/
def cut (size : Nat) (bytes : List UInt8) : Nat → List (List UInt8)
  | 0 => [bytes]
  | fuel + 1 =>
    if bytes.isEmpty then []
    else bytes.take (size + 1) :: cut size (bytes.drop (size + 1)) fuel

end LanguageClient.Frame
