import LanguageClient.Glob.Basic
import LanguageClient.Json.Printer

/-!
# Matching globs

A text is matched as bytes. Each part of a pattern turns the set of places that the parts before it
reach into the set that they and it reach, so a match takes time in proportion to the text and the
pattern, whatever the stars.
-/

namespace LanguageClient.Glob

/-- What a byte may be: ranges, and whether it is to lie outside them. -/
structure ByteSet where
  negated : Bool
  ranges : List (UInt8 × UInt8)
  deriving DecidableEq, Repr

def ByteSet.has (s : ByteSet) (b : UInt8) : Bool :=
  (s.ranges.any fun r => r.1 ≤ b && b ≤ r.2) != s.negated

def ByteSet.single (b : UInt8) : ByteSet := ⟨false, [(b, b)]⟩

/-- A pattern over bytes. -/
inductive Pattern
  | byte (s : ByteSet)
  | run
  | seq (parts : List Pattern)
  | alt (branches : List Pattern)

/--
The byte ranges of a range of characters: its end bytes are joined, and the bytes before and after
them count by themselves.
-/
def byteRanges (r : Char × Char) : List (UInt8 × UInt8) :=
  let first := Json.utf8 (String.singleton r.1)
  if r.1 = r.2 then first.map fun b => (b, b)
  else
    let last := Json.utf8 (String.singleton r.2)
    (first.dropLast.map fun b => (b, b)) ++ [(first.getLastD 0, last.headD 0)] ++
      last.tail.map fun b => (b, b)

/-- The slash between directories. -/
def slash : Pattern := .byte (.single 0x2F)

mutual

/-- Whether a token comes to nothing: a group all of whose branches come to nothing. -/
def Token.isVoid : Token → Bool
  | .alternatives branches => allVoid branches
  | _ => false

def isVoid : List Token → Bool
  | [] => true
  | t :: rest => t.isVoid && isVoid rest

def allVoid : List (List Token) → Bool
  | [] => true
  | branch :: rest => isVoid branch && allVoid rest

end

mutual

/-- The pattern of a token. -/
def Token.pattern : Token → Pattern
  | .literal c => .seq ((Json.utf8 (String.singleton c)).map fun b => .byte (.single b))
  | .any => .byte ⟨true, []⟩
  | .anyRun => .run
  | .leadingDirs => .alt [.seq [], slash, .seq [.run, slash]]
  | .trailingDirs => .seq [slash, .run]
  | .innerDirs => .alt [slash, .seq [slash, .run, slash]]
  | .set negated ranges => .byte ⟨negated, ranges.flatMap byteRanges⟩
  | .alternatives branches =>
    if allVoid branches then .seq [] else .alt (branchPatterns branches)

/-- The patterns of tokens in a row. -/
def patterns : List Token → List Pattern
  | [] => []
  | t :: rest => t.pattern :: patterns rest

/-- The patterns of branches; a branch that stands for nothing is left out. -/
def branchPatterns : List (List Token) → List Pattern
  | [] => []
  | branch :: rest =>
    if isVoid branch then branchPatterns rest else .seq (patterns branch) :: branchPatterns rest

end

/-- A set of places in a text: before each byte, and at the end. -/
abbrev Places := List Bool

namespace Places

def union (a b : Places) : Places := List.zipWith (· || ·) a b

/-- From a place, to each place at or after it. -/
def spread : Bool → Places → Places
  | _, [] => []
  | seen, here :: rest => (seen || here) :: spread (seen || here) rest

/-- From a place, over one byte of the set. -/
def advance (s : ByteSet) (text : List UInt8) (places : Places) : Places :=
  false :: List.zipWith (fun b here => here && s.has b) text places

/-- The start of a text. -/
def start (text : List UInt8) : Places := true :: text.map fun _ => false

def none (text : List UInt8) : Places := false :: text.map fun _ => false

end Places

mutual

/-- From places before a part of the text that the pattern matches, to those after it. -/
def Pattern.walk (text : List UInt8) : Pattern → Places → Places
  | .byte s, places => places.advance s text
  | .run, places => places.spread false
  | .seq parts, places => walkAll text parts places
  | .alt branches, places => walkAny text branches places

def walkAll (text : List UInt8) : List Pattern → Places → Places
  | [], places => places
  | p :: rest, places => walkAll text rest (p.walk text places)

def walkAny (text : List UInt8) : List Pattern → Places → Places
  | [], _ => .none text
  | p :: rest, places => (p.walk text places).union (walkAny text rest places)

end

/-- The pattern of a whole glob; a lone `**` matches everything. -/
def compile : List Token → Pattern
  | [.leadingDirs] => .run
  | tokens => .seq (patterns tokens)

/-- Whether a pattern matches a whole text. -/
def Pattern.isMatch (p : Pattern) (text : List UInt8) : Bool :=
  (p.walk text (.start text)).getLastD false

end LanguageClient.Glob
