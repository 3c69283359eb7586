import LanguageClient.Text.Class

/-!
# Regular expressions

Patterns of texts, and where they fit. From a place in a text a pattern leads to further places; a
search takes the first place at which the pattern fits and, of those it leads to from there, the
last in the text. Of several ways to that place the one that repeats more often is taken, and the
first of alternatives.
-/

namespace LanguageClient

/-- A condition on what stands before and after a place. -/
inductive Regex.Edge
  | start
  | stop
  | word
  | noWord
  | wordStart
  | wordStop
  /-- No word goes on before it. -/
  | afterWord
  /-- No word goes on after it. -/
  | beforeWord
  deriving DecidableEq, Repr

inductive Regex
  | nothing
  /-- One character, which lies in some ranges or outside them. -/
  | one (negated : Bool) (ranges : List (Char × Char))
  | edge (e : Regex.Edge)
  | row (a b : Regex)
  | either (a b : Regex)
  /-- The same several times. -/
  | times (a : Regex) (least : Nat) (most : Option Nat)
  | group (n : Nat) (a : Regex)
  /-- What a group has found. -/
  | same (n : Nat)
  deriving Repr

namespace Regex

/-- How many groups a pattern has. -/
def groupCount : Regex → Nat
  | .group _ a => a.groupCount + 1
  | .row a b | .either a b => a.groupCount + b.groupCount
  | .times a _ _ => a.groupCount
  | .nothing | .one _ _ | .edge _ | .same _ => 0

/-- What a group has found, and where. -/
structure Found where
  start : Nat
  text : List Char
  deriving DecidableEq, Repr

def Found.stop (f : Found) : Nat := f.start + f.text.length

/-- A place in a text, and what the groups have found on the way to it, the latest first. -/
structure Place where
  position : Nat
  before : Option Char
  rest : List Char
  groups : List (Nat × Found)
  deriving DecidableEq, Repr

/-- The beginning of a text. -/
def Place.start (cs : List Char) : Place := ⟨0, none, cs, []⟩

/-- The place after a number of characters. -/
def Place.skip (p : Place) (count : Nat) : Place :=
  match (p.rest.take count).getLast? with
  | some c => { p with position := p.position + count, before := some c, rest := p.rest.drop count }
  | none => p

def isWordChar (c : Char) : Bool := c.isAlphanum || c = '_'

def Edge.holds (e : Edge) (p : Place) : Bool :=
  let wordBefore := p.before.any isWordChar
  let wordAfter := p.rest.head?.any isWordChar
  match e with
  | .start => p.before.isNone
  | .stop => p.rest.isEmpty
  | .word => wordBefore != wordAfter
  | .noWord => wordBefore == wordAfter
  | .wordStart => !wordBefore && wordAfter
  | .wordStop => wordBefore && !wordAfter
  | .afterWord => !wordBefore
  | .beforeWord => !wordAfter

/-- Whether a character fits; `fold` if a letter stands for both of its cases. -/
def admits (fold negated : Bool) (ranges : List (Char × Char)) (c : Char) : Bool :=
  let found := Text.inRanges ranges c ||
    (fold && (Text.inRanges ranges c.toLower || Text.inRanges ranges c.toUpper))
  found != negated

/-- The places after going through a step again and again: a round that leads nowhere is the last of
its path. -/
def again (step : Place → List Place) (least : Nat) (most : Option Nat) :
    Nat → Nat → Place → List Place
  | 0, _, p => [p]
  | fuel + 1, count, p =>
    let more :=
      if most.any (· ≤ count) then []
      else (step p).flatMap fun q =>
        if q.position = p.position then [q] else again step least most fuel (count + 1) q
    if count < least then more else more ++ [p]

/-- The places that a pattern leads to, the preferred ones first. -/
def ends (fold : Bool) : Regex → Place → List Place
  | .nothing, p => [p]
  | .one negated ranges, p =>
    match p.rest with
    | c :: rest =>
      if admits fold negated ranges c then [⟨p.position + 1, some c, rest, p.groups⟩] else []
    | [] => []
  | .edge e, p => if e.holds p then [p] else []
  | .row a b, p => (ends fold a p).flatMap (ends fold b)
  | .either a b, p => ends fold a p ++ ends fold b p
  | .times a least most, p => again (ends fold a) least most (p.rest.length + least + 1) 0 p
  | .group n a, p =>
    (ends fold a p).map fun q =>
      { q with groups := (n, ⟨p.position, p.rest.take (q.position - p.position)⟩) :: q.groups }
  | .same n, p =>
    match p.groups.lookup n with
    | some f =>
      let here := p.rest.take f.text.length
      let good := if fold then here.map Char.toLower = f.text.map Char.toLower else here = f.text
      if good then [p.skip f.text.length] else []
    | none => []

/-- A pattern put to use; `fold` if a letter stands for both of its cases. -/
structure Search where
  regex : Regex
  fold : Bool

/-- What has been found: the whole, and the groups. -/
structure Hit where
  whole : Found
  groups : List (Nat × Found)
  deriving DecidableEq, Repr

namespace Search

/-- The first of the places that are the last in the text. -/
def farthest : List Place → Option Place
  | [] => none
  | p :: rest =>
    some (rest.foldl (fun best q => if best.position < q.position then q else best) p)

/-- What a pattern finds at a place. -/
def here? (s : Search) (p : Place) : Option Hit :=
  let p := { p with groups := [] }
  (farthest (ends s.fold s.regex p)).map fun q =>
    ⟨⟨p.position, p.rest.take (q.position - p.position)⟩, q.groups⟩

/-- What a pattern finds first from a place on. -/
def find? (s : Search) (position : Nat) (before : Option Char) : List Char → Option Hit
  | [] => s.here? ⟨position, before, [], []⟩
  | c :: rest =>
    match s.here? ⟨position, before, c :: rest, []⟩ with
    | some h => some h
    | none => find? s (position + 1) (some c) rest

/-- What a pattern finds first in a text. -/
def first? (s : Search) (cs : List Char) : Option Hit := s.find? 0 none cs

/-- All that a pattern finds from a place on, one after another; `last` is the end of what was found
before, where an empty text does not count. -/
def every (s : Search) : Nat → Option Nat → Place → List Hit
  | 0, _, _ => []
  | fuel + 1, last, p =>
    match s.find? p.position p.before p.rest with
    | none => []
    | some h =>
      let after := p.skip (h.whole.stop - p.position)
      if h.whole.text.isEmpty then
        let onward := if after.rest.isEmpty then [] else every s fuel last (after.skip 1)
        if last = some h.whole.start then onward else h :: onward
      else h :: every s fuel (some h.whole.stop) after

/-- All that a pattern finds in a text. -/
def all (s : Search) (cs : List Char) : List Hit := s.every (2 * cs.length + 2) none (.start cs)

end Search

end Regex

end LanguageClient
