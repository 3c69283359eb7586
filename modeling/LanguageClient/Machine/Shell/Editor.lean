import LanguageClient.Machine.Shell.Filters

/-!
# The stream editor

Programs that are run on each line of a text: a row of instructions, each for some of the lines.
-/

namespace LanguageClient.Shell

/-- Which lines an instruction is for. -/
inductive Address
  | line (n : Nat)
  | last
  | every (first step : Nat)
  /-- Lines that fit a pattern, or the pattern that was used last. -/
  | fits (s : Option Regex.Search)
  /-- So many lines further. -/
  | onward (n : Nat)

/-- A part of what a text is replaced by. -/
inductive Replacement
  | char (c : Char)
  | group (n : Nat)
  /-- Letters are changed from here on: `U`, `L` or `E`, and `u` or `l` for one only. -/
  | mode (c : Char)

inductive Edit
  | substitute (s : Option Regex.Search) (pieces : List Replacement) (nth : Nat) (every print : Bool)
  | delete (first : Bool)
  | print (first : Bool)
  | quit (status : Nat) (silent : Bool)
  | translate (pairs : List (Char × Char))
  | number
  | append (text : List Char)
  | insert (text : List Char)
  | change (text : List Char)
  | next (join : Bool)
  /-- Keep the line, or add it to what is kept. -/
  | keep (more : Bool)
  | fetch (more : Bool)
  | swap
  | label (name : List Char)
  | jump (name : List Char) (ifReplaced : Bool)
  /-- The instructions that follow, so many, are for the same lines. -/
  | block (size : Nat)

structure Instruction where
  first : Option Address
  last : Option Address
  negated : Bool
  edit : Edit

namespace Editor

/-! ### Reading programs -/

/-- A text up to a mark without a backslash before it, and what follows; `pattern` if the mark can
be between brackets. -/
def upTo (mark : Char) (pattern : Bool) : Nat → Bool → List Char → Option (List Char × List Char)
  | 0, _, _ | _, _, [] => none
  | fuel + 1, inside, '\\' :: c :: rest => do
    let (more, rest) ← upTo mark pattern fuel inside rest
    if c = mark && !inside then return (c :: more, rest) else return ('\\' :: c :: more, rest)
  | fuel + 1, inside, c :: rest => do
    if c = mark && !inside then return ([], rest)
    if c = '\n' && pattern then none
    if pattern && !inside && c = '[' then
      -- a bracket right at the beginning of a set does not close it
      let head := match rest with
        | '^' :: ']' :: _ => ['^', ']']
        | ']' :: _ => [']']
        | _ => []
      let (more, rest) ← upTo mark pattern fuel true (rest.drop head.length)
      return (c :: head ++ more, rest)
    let (more, rest) ← upTo mark pattern fuel (inside && c ≠ ']') rest
    return (c :: more, rest)

def until? (mark : Char) (pattern : Bool) (cs : List Char) : Option (List Char × List Char) :=
  upTo mark pattern (cs.length + 1) false cs

/-- The parts of what a text is replaced by. -/
def replacement : List Char → List Replacement
  | [] => []
  | '&' :: rest => .group 0 :: replacement rest
  | '\\' :: c :: rest =>
    let own : Replacement :=
      if c.isDigit then .group (c.toNat - '0'.toNat)
      else if c ∈ ['U', 'L', 'E', 'u', 'l'] then .mode c
      else .char ((Regex.Reading.letterChar? c).getD c)
    own :: replacement rest
  | c :: rest => .char c :: replacement rest

/-- How programs are written: in the extended dialect or in the basic one. -/
abbrev Writing := Regex.Dialect

def search? (w : Writing) (fold : Bool) (cs : List Char) : Option (Option Regex.Search) :=
  if cs.isEmpty then some none else (searchFor? w fold cs).map some

def blanks (cs : List Char) : List Char := cs.dropWhile fun c => c = ' ' || c = '\t'

def number? (cs : List Char) : Option (Nat × List Char) :=
  let digits := cs.takeWhile Char.isDigit
  (natural? digits).map fun n => (n, cs.drop digits.length)

/-- An address, if there is one. -/
def address? (w : Writing) (cs : List Char) : Option (Option Address × List Char) :=
  let pattern (mark : Char) (cs : List Char) : Option (Option Address × List Char) := do
    let (text, rest) ← until? mark true cs
    match rest with
    | 'I' :: rest => return (some (.fits (← search? w true text)), rest)
    | rest => return (some (.fits (← search? w false text)), rest)
  match cs with
  | '$' :: rest => some (some .last, rest)
  | '/' :: rest => pattern '/' rest
  | '\\' :: mark :: rest => pattern mark rest
  | '+' :: rest => (number? rest).map fun (n, rest) => (some (.onward n), rest)
  | cs =>
    match number? cs with
    | some (n, '~' :: rest) => (number? rest).map fun (m, rest) => (some (.every n m), rest)
    | some (n, rest) => some (some (.line n), rest)
    | none => some (none, cs)

/-- The flags after a substitution. -/
structure Flags where
  nth : Nat
  every : Bool
  print : Bool
  fold : Bool

def flags : Nat → Flags → List Char → Option (Flags × List Char)
  | 0, _, _ => none
  | fuel + 1, f, cs =>
    match cs with
    | 'g' :: rest => flags fuel { f with every := true } rest
    | 'p' :: rest => flags fuel { f with print := true } rest
    | 'i' :: rest | 'I' :: rest => flags fuel { f with fold := true } rest
    | 'm' :: rest | 'M' :: rest => flags fuel f rest
    | cs =>
      match number? cs with
      | some (0, _) => none
      | some (n, rest) => flags fuel { f with nth := n } rest
      | none => some (f, cs)

/-- The text of an instruction that adds one: up to a line end without a backslash before it. -/
def addedText (cs : List Char) : List Char × List Char :=
  let cs := match blanks cs with
    | '\\' :: rest =>
      match blanks rest with
      | '\n' :: rest => rest
      | rest => rest
    | rest => rest
  go (cs.length + 1) cs
where
  go : Nat → List Char → List Char × List Char
    | 0, cs => ([], cs)
    | _ + 1, [] => (['\n'], [])
    | _ + 1, '\n' :: rest => (['\n'], rest)
    | fuel + 1, '\\' :: c :: rest =>
      let (more, rest) := go fuel rest
      (c :: more, rest)
    | fuel + 1, c :: rest =>
      let (more, rest) := go fuel rest
      (c :: more, rest)

/-- A name, and what follows it. -/
def labelName (cs : List Char) : List Char × List Char :=
  let cs := blanks cs
  let name := cs.takeWhile fun c => c ≠ '\n' && c ≠ ';' && c ≠ '\x7d'
  ((name.reverse.dropWhile (· = ' ')).reverse, cs.drop name.length)

/-- What an instruction does, after its addresses. -/
def edit? (w : Writing) (cs : List Char) : Option (Edit × List Char) :=
  match cs with
  | 's' :: mark :: rest => do
    let (pattern, rest) ← until? mark true rest
    let (pieces, rest) ← until? mark false rest
    let (f, rest) ← flags (rest.length + 1) ⟨1, false, false, false⟩ rest
    return (.substitute (← search? w f.fold pattern) (replacement pieces) f.nth f.every f.print, rest)
  | 'y' :: mark :: rest => do
    let (before, rest) ← until? mark false rest
    let (after, rest) ← until? mark false rest
    let plain (cs : List Char) : List Char := (replacement cs).map fun
      | .char c => c
      | .group n => if n = 0 then '&' else Char.ofNat ('0'.toNat + n)
      | .mode c => c
    if (plain before).length ≠ (plain after).length then none
    return (.translate ((plain before).zip (plain after)), rest)
  | 'a' :: rest =>
    let (text, rest) := addedText rest
    some (.append text, rest)
  | 'i' :: rest =>
    let (text, rest) := addedText rest
    some (.insert text, rest)
  | 'c' :: rest =>
    let (text, rest) := addedText rest
    some (.change text, rest)
  | 'd' :: rest => some (.delete false, rest)
  | 'D' :: rest => some (.delete true, rest)
  | 'p' :: rest => some (.print false, rest)
  | 'P' :: rest => some (.print true, rest)
  | 'n' :: rest => some (.next false, rest)
  | 'N' :: rest => some (.next true, rest)
  | 'h' :: rest => some (.keep false, rest)
  | 'H' :: rest => some (.keep true, rest)
  | 'g' :: rest => some (.fetch false, rest)
  | 'G' :: rest => some (.fetch true, rest)
  | 'x' :: rest => some (.swap, rest)
  | '=' :: rest => some (.number, rest)
  | 'q' :: rest =>
    match number? (blanks rest) with
    | some (n, rest) => some (.quit n false, rest)
    | none => some (.quit 0 false, rest)
  | 'Q' :: rest =>
    match number? (blanks rest) with
    | some (n, rest) => some (.quit n true, rest)
    | none => some (.quit 0 true, rest)
  | ':' :: rest =>
    let (name, rest) := labelName rest
    some (.label name, rest)
  | 'b' :: rest =>
    let (name, rest) := labelName rest
    some (.jump name false, rest)
  | 't' :: rest =>
    let (name, rest) := labelName rest
    some (.jump name true, rest)
  | _ => none

/-- The instructions of a program, up to the brace that closes a block if `inner`. -/
def program? (w : Writing) : Nat → Bool → List Char → Option (List Instruction × List Char)
  | 0, _, _ => none
  | fuel + 1, inner, cs => do
    let cs := cs.dropWhile fun c => c.isWhitespace || c = ';'
    match cs with
    | [] => if inner then none else return ([], [])
    | '\x7d' :: rest => if inner then return ([], rest) else none
    | '#' :: rest => program? w fuel inner (rest.dropWhile (· ≠ '\n'))
    | cs =>
      let (first, cs) ← address? w cs
      let (last, cs) ← match first, blanks cs with
        | some _, ',' :: rest => do
          let (last, rest) ← address? w (blanks rest)
          if last.isNone then none
          pure (last, rest)
        | _, rest => pure (none, rest)
      let cs := blanks cs
      let (negated, cs) := match cs with
        | '!' :: rest => (true, blanks rest)
        | rest => (false, rest)
      match cs with
      | '\x7b' :: rest =>
        let (body, rest) ← program? w fuel true rest
        let (more, rest) ← program? w fuel inner rest
        return (⟨first, last, negated, .block body.length⟩ :: body ++ more, rest)
      | cs =>
        let (edit, rest) ← edit? w cs
        let added : Bool := match edit with
          | .append _ | .insert _ | .change _ => true
          | _ => false
        let ended : Bool := match (blanks rest).head? with
          | some c => c = ';' || c = '\n' || c = '\x7d' || c = '#'
          | none => true
        if !ended && !added then none
        let (more, rest) ← program? w fuel inner rest
        return (⟨first, last, negated, edit⟩ :: more, rest)

/-! ### Running programs -/

/-- Where the editor is in its text. -/
structure State where
  line : List Char
  kept : List Char
  /-- Lines that are still to come, each with whether it is ended. -/
  coming : List (List Char × Bool)
  /-- Whether lines of the input come after those. -/
  opened : Bool
  number : Nat
  /-- Whether the line that was read last is ended. -/
  ended : Bool
  /-- Whether what was written last lacks its end. -/
  lacking : Bool
  out : List (List Char)
  added : List (List Char)
  /-- Instructions that go on being for each line, and the last line if that is known. -/
  active : List (Nat × Option Nat)
  replaced : Bool
  used : Option Regex.Search

/-- Write a text and its end. -/
def State.say (s : State) (cs : List Char) (ended : Bool) : State :=
  let gap := if s.lacking then ['\n'] else []
  { s with out := (gap ++ cs ++ if ended then ['\n'] else []) :: s.out, lacking := !ended }

def State.sayText (s : State) (text : List Char) : State :=
  let gap := if s.lacking then ['\n'] else []
  { s with out := (gap ++ text) :: s.out, lacking := false }

/-- What was to be added after the line. -/
def State.settled (s : State) : State :=
  { s.added.foldl State.sayText s with added := [] }

/-- Take the next line, if there is one. -/
def fetchLine (s : State) : Doing (Option (List Char × State)) := do
  match s.coming with
  | (line, ended) :: rest =>
    return some (line, { s with coming := rest, number := s.number + 1, ended })
  | [] =>
    if !s.opened then return none
    let (line, ended) ← readLine 0
    if line.isEmpty && !ended then return none
    return some (line, { s with number := s.number + 1, ended })

/-- Whether no line comes after this one. -/
def isLast (s : State) : Doing Bool := do
  if !s.coming.isEmpty then return false
  if s.opened then return (← peekFrom 0).isNone else return true

/-- The pattern of an address or a substitution, which is the one that was used last if none is
given. -/
def State.pattern? (s : State) (given : Option Regex.Search) : Option Regex.Search := given <|> s.used

/-- Whether an address is that of the line. -/
def holds (s : State) (a : Address) : Doing (Bool × State) := do
  match a with
  | .line n => return (s.number = n, s)
  | .last => return (← isLast s, s)
  | .every first step =>
    let fits := if step = 0 then s.number = first
      else first ≤ s.number && (s.number - first) % step = 0
    return (fits, s)
  | .onward _ => return (false, s)
  | .fits given =>
    match s.pattern? given with
    | some r => return ((r.first? s.line).isSome, { s with used := some r })
    | none => return (false, s)

/-- Whether an instruction, which stands at a place, is for the line. -/
def selects (s : State) (place : Nat) (i : Instruction) : Doing (Bool × State) := do
  let done (s : State) : State := { s with active := s.active.filter (·.1 ≠ place) }
  match i.first, i.last with
  | none, _ => return (true, s)
  | some a, none => holds s a
  | some a, some b =>
    match s.active.lookup place with
    | some last? =>
      match last?, b with
      | some n, _ => return (s.number ≤ n, if s.number < n then s else done s)
      | none, b =>
        let (past, s) ← holds s b
        return (true, if past then done s else s)
    | none =>
      let (begun, s) ← holds s a
      if !begun then return (false, s)
      let last? : Option Nat := match b with
        | .line n => some n
        | .onward n => some (s.number + n)
        | _ => none
      if last?.any (· ≤ s.number) then return (true, s)
      return (true, { s with active := (place, last?) :: s.active })

/-- What a text is replaced by, given what was found. -/
def replaced (h : Regex.Hit) : List Replacement → Char → Option Char → List Char
  | [], _, _ => []
  | .mode c :: rest, mode, _ =>
    if c = 'u' || c = 'l' then replaced h rest mode (some c) else replaced h rest c none
  | r :: rest, mode, once =>
    let text := match r with
      | .char c => [c]
      | .group 0 => h.whole.text
      | .group n => (h.groups.lookup n).elim [] Regex.Found.text
      | .mode _ => []
    let text := match mode with
      | 'U' => text.map Char.toUpper
      | 'L' => text.map Char.toLower
      | _ => text
    match text, once with
    | c :: cs, some 'u' => c.toUpper :: cs ++ replaced h rest mode none
    | c :: cs, some _ => c.toLower :: cs ++ replaced h rest mode none
    | text, once => text ++ replaced h rest mode once

/-- A text with some of what was found in it replaced. -/
def spliced (pieces : List Replacement) (position : Nat) : List Char → List Regex.Hit → List Char
  | cs, [] => cs
  | cs, h :: rest =>
    cs.take (h.whole.start - position) ++ replaced h pieces 'E' none ++
      spliced pieces h.whole.stop (cs.drop (h.whole.stop - position)) rest

/-- What happens after an instruction. -/
inductive Turn
  | onward
  | to (place : Nat)
  /-- The line is done with; whether it is written. -/
  | done (written : Bool)
  /-- The program begins again with what is left of the line. -/
  | again
  | quit (status : Nat) (written : Bool)

/-- Do what an instruction says. -/
def perform (quiet : Bool) (program : List Instruction) (s : State) : Edit → Doing (Turn × State)
  | .substitute given pieces nth every print => do
    let some r := s.pattern? given | return (.onward, s)
    let s := { s with used := some r }
    let hits := if every || 1 < nth then (r.all s.line).drop (nth - 1) else (r.first? s.line).toList
    let hits := if every then hits else hits.take 1
    if hits.isEmpty then return (.onward, s)
    let s := { s with line := spliced pieces 0 s.line hits, replaced := true }
    return (.onward, if print then s.say s.line s.ended else s)
  | .delete false => return (.done false, s)
  | .delete true =>
    if '\n' ∈ s.line then return (.again, { s with line := (s.line.dropWhile (· ≠ '\n')).drop 1 })
    else return (.done false, s)
  | .print first =>
    return (.onward, s.say (if first then s.line.takeWhile (· ≠ '\n') else s.line)
      (s.ended || first))
  | .quit status silent => return (.quit status !silent, s)
  | .translate pairs =>
    return (.onward, { s with line := s.line.map fun c => (pairs.lookup c).getD c })
  | .number => return (.onward, s.sayText (lineOf (numeralOf s.number)))
  | .append text => return (.onward, { s with added := s.added ++ [text] })
  | .insert text => return (.onward, s.sayText text)
  | .change text => return (.done false, s.sayText text)
  | .next join => do
    match ← fetchLine s with
    | none => return (.quit 0 true, s)
    | some (line, after) =>
      if join then return (.onward, { after.settled with line := s.line ++ '\n' :: line })
      else
        let shown := if quiet then after else
          { s.say s.line true with
            coming := after.coming, number := after.number, ended := after.ended }
        return (.onward, { shown.settled with line })
  | .keep more =>
    return (.onward, { s with kept := if more then s.kept ++ '\n' :: s.line else s.line })
  | .fetch more =>
    return (.onward, { s with line := if more then s.line ++ '\n' :: s.kept else s.kept })
  | .swap => return (.onward, { s with line := s.kept, kept := s.line })
  | .label _ | .block _ => return (.onward, s)
  | .jump name ifReplaced => do
    if ifReplaced && !s.replaced then return (.onward, s)
    let s := if ifReplaced then { s with replaced := false } else s
    if name.isEmpty then return (.done true, s)
    let isTarget (i : Instruction) : Bool := match i.edit with
      | .label other => other = name
      | _ => false
    match program.findIdx? isTarget with
    | some place => return (.to place, s)
    | none => return (.done true, s)

/-- Run a program from one of its places on for the line; how that ends. -/
def runLine (quiet : Bool) (program : List Instruction) : Nat → Nat → State → Doing (Turn × State)
  | 0, _, _ => throw .spent
  | fuel + 1, place, s => do
    match program[place]? with
    | none => return (.done true, s)
    | some i =>
      let (good, s) ← selects s place i
      if good = i.negated then
        let size := match i.edit with
          | .block n => n
          | _ => 0
        runLine quiet program fuel (place + size + 1) s
      else
        -- a text that takes the place of several lines is written after the last of them
        let skipped := match i.edit with
          | .change _ => !i.negated && (s.active.lookup place).isSome
          | _ => false
        if skipped then return (.done false, s)
        match ← perform quiet program s i.edit with
        | (.onward, s) => runLine quiet program fuel (place + 1) s
        | (.to place, s) => runLine quiet program fuel place s
        | turn => return turn

/-- Run a program for one line after another; the status. -/
def run (quiet : Bool) (program : List Instruction) : Nat → Bool → State → Doing (Nat × State)
  | 0, _, _ => throw .spent
  | fuel + 1, fresh, s => do
    let begun ← do
      if !fresh then pure (some s)
      else match ← fetchLine s with
        | some (line, s) => pure (some { s with line, replaced := false })
        | none => pure none
    match begun with
    | none => return (0, s)
    | some s =>
      let (turn, s) ← runLine quiet program patience 0 s
      let shown (written : Bool) : State :=
        (if written && !quiet then s.say s.line s.ended else s).settled
      match turn with
      | .quit status written => return (status, shown written)
      | .again => run quiet program fuel false (shown false)
      | .done written => run quiet program fuel true (shown written)
      | _ => run quiet program fuel true (shown true)

/-- The beginning, with some lines and perhaps the input after them. -/
def State.begin (coming : List (List Char × Bool)) (input : Bool) : State :=
  ⟨[], [], coming, input, 0, true, false, [], [], [], false, none⟩

def State.text (s : State) : List Char := s.out.reverse.flatten

end Editor

/-- Lines with whether they are ended. -/
def markedLines (text : List Char) : List (List Char × Bool) :=
  (allLines text).map fun line => (bare line, line.getLast? = some '\n')

def sed (args : Args) : Doing Unit := do
  let o := Offer.read ⟨['n', 'E', 'r', 's', 'u', 'i', 'z'], ['e', 'f'],
    [("quiet", 'n'), ("silent", 'n'), ("regexp-extended", 'E'), ("expression", 'e'),
      ("file", 'f'), ("in-place", 'i'), ("unbuffered", 'u'), ("separate", 's')]⟩ args
  let scripts ← o.values.mapM fun (c, v) => do
    if c = 'f' then return ((← textNamed v).map bare) else return some v
  let (scripts, names) := match scripts with
    | [] => ((o.words.take 1).map some, o.words.drop 1)
    | scripts => (scripts, o.words)
  let dialect : Regex.Dialect := if o.has 'E' || o.has 'r' then .extended else .basic
  match scripts.mapM id with
  | none | some [] => setStatus 1
  | some scripts =>
    let script := List.intercalate ['\n'] scripts
    match o.wrong, Editor.program? dialect (2 * script.length + 8) false script with
    | false, some (program, []) =>
      let quiet := o.has 'n'
      if o.has 'i' then
        let mut good := true
        for name in names do
          match ← textNamed name, placeOf? (← get) name with
          | some text, some path =>
            let (_, s) ← Editor.run quiet program patience true (.begin (markedLines text) false)
            placeEntry path (some (.file (toBytes s.text)))
          | _, _ => good := false
        setStatus (if good then 0 else 4)
      else if names.isEmpty then
        let (status, s) ← Editor.run quiet program patience true (.begin [] true)
        let _ ← writeTo 1 s.text
        setStatus status
      else
        let texts ← names.mapM textNamed
        let lines := texts.flatMap fun t => markedLines (t.getD [])
        let (status, s) ← Editor.run quiet program patience true (.begin lines false)
        let _ ← writeTo 1 s.text
        setStatus (if status = 0 && texts.any (·.isNone) then 2 else status)
    | _, _ => setStatus 1

end LanguageClient.Shell
