import LanguageClient.Machine.Regex.Reader
import LanguageClient.Machine.Shell.Lines

/-!
# Filters

Commands that pick lines and parts of lines, and put them in order.
-/

namespace LanguageClient.Shell

/-! ### Lines that fit a pattern -/

/-- A pattern in the dialect of a command; nothing when it is none. -/
def searchFor? (dialect : Regex.Dialect) (fold : Bool) (cs : List Char) : Option Regex.Search :=
  (Regex.ofText? dialect cs).map fun r => ⟨r, fold⟩

/-- The pattern of a text that stands for itself. -/
def literally (cs : List Char) : Regex := cs.foldr (fun c r => .row (Regex.Reading.single c) r) .nothing

/-- The pattern that one of several lines is to fit, each as a whole if `whole`, or as a word. -/
def anyOf? (o : Options) (lines : Args) : Option Regex := do
  let dialect : Regex.Dialect := if o.has 'E' then .extended else .basic
  let patterns ← lines.mapM fun line =>
    if o.has 'F' then some (literally line) else Regex.ofText? dialect line
  let framed (r : Regex) : Regex :=
    if o.has 'x' then .row (.edge .start) (.row r (.edge .stop))
    else if o.has 'w' then .row (.edge .afterWord) (.row r (.edge .beforeWord))
    else r
  match patterns.map framed with
  | [] => none
  | first :: rest => return rest.foldl .either first

def grepOffer : Offer where
  plain := ['E', 'F', 'G', 'i', 'y', 'v', 'c', 'n', 'q', 's', 'o', 'w', 'x', 'l', 'L', 'h', 'H', 'a']
  valued := ['e', 'm', 'f']
  names := [("extended-regexp", 'E'), ("fixed-strings", 'F'), ("ignore-case", 'i'),
    ("invert-match", 'v'), ("count", 'c'), ("line-number", 'n'), ("quiet", 'q'), ("silent", 'q'),
    ("only-matching", 'o'), ("word-regexp", 'w'), ("line-regexp", 'x'),
    ("files-with-matches", 'l'), ("no-messages", 's'), ("regexp", 'e'), ("max-count", 'm'),
    ("no-filename", 'h'), ("with-filename", 'H'), ("text", 'a')]

/-- What is written of the lines that fit, of numbered lines. -/
def chosenLines (o : Options) (s : Regex.Search) (head : List Char) (lines : List (Nat × List Char)) :
    List Char × Nat :=
  let fits (line : Nat × List Char) : Bool := (s.first? line.2).isSome != o.has 'v'
  let found := lines.filter fits
  let found := match (o.value? 'm').bind natural? with
    | some most => found.take most
    | none => found
  let number (n : Nat) : List Char := if o.has 'n' then numeralOf n ++ [':'] else []
  let shown (line : Nat × List Char) : List Char :=
    if o.has 'o' then
      if o.has 'v' then []
      else ((s.all line.2).filter (!·.whole.text.isEmpty)).flatMap fun h =>
        lineOf (head ++ number line.1 ++ h.whole.text)
    else lineOf (head ++ number line.1 ++ line.2)
  (found.flatMap shown, found.length)

/-- Whether one of the lines of the input fits; what comes after that line is left. -/
def someLine (o : Options) (s : Regex.Search) : Nat → Doing Bool
  | 0 => throw .spent
  | fuel + 1 => do
    let (line, ended) ← readLine 0
    if line.isEmpty && !ended then return false
    if (s.first? line).isSome != o.has 'v' then return true
    someLine o s fuel

def grep (variant : List Char) (args : Args) : Doing Unit := do
  let o := grepOffer.read args
  let o := { o with flags := variant ++ o.flags }
  let (given, names) := match o.all 'e' with
    | [] => (o.words.take 1, o.words.drop 1)
    | given => (given, o.words)
  if o.wrong || given.isEmpty then setStatus 2
  else
    let lines := given.flatMap fun p => if p.isEmpty then [[]] else Text.splitOn '\n' p
    match anyOf? o lines with
    | none => setStatus 2
    | some regex =>
      let s : Regex.Search := ⟨regex, o.has 'i' || o.has 'y'⟩
      if o.has 'q' && (names.isEmpty || names = [['-']]) then
        succeedIf (← someLine o s patience)
      else
        let names := if names.isEmpty then [['-']] else names
        let many := (o.has 'H' || names.length > 1) && !o.has 'h'
        let mut out := []
        let mut found := false
        let mut missing := false
        for name in names do
          match ← textNamed name with
          | none => missing := true
          | some text =>
            let shownName := if name = ['-'] then "(standard input)".toList else name
            let lines := bareLines text
            let numbered := (List.range lines.length).zip lines |>.map fun (i, l) => (i + 1, l)
            let (shown, count) :=
              chosenLines o s (if many then shownName ++ [':'] else []) numbered
            if 0 < count then found := true
            if o.has 'l' then
              if 0 < count then out := out ++ lineOf shownName
            else if o.has 'L' then
              if count = 0 then out := out ++ lineOf shownName
            else if o.has 'c' then
              out := out ++ (if many then shownName ++ [':'] else []) ++ lineOf (numeralOf count)
            else out := out ++ shown
        unless o.has 'q' do
          let _ ← writeTo 1 out
        setStatus (if missing && !(o.has 'q' && found) then 2 else if found then 0 else 1)

/-! ### Parts of lines -/

/-- The places that a list names: from one to another, where the last may be missing. -/
def spans? (cs : List Char) : Option (List (Nat × Option Nat)) :=
  (Text.splitOn ',' cs).mapM fun part => do
    let low := part.takeWhile (· ≠ '-')
    match part.drop low.length with
    | [] =>
      let n ← natural? low
      if n = 0 then none
      return (n, some n)
    | _ :: high =>
      if low.isEmpty && high.isEmpty then none
      let a ← if low.isEmpty then some 1 else natural? low
      if a = 0 then none
      if high.isEmpty then return (a, none)
      let b ← natural? high
      if b < a then none
      return (a, some b)

def inSpans (spans : List (Nat × Option Nat)) (n : Nat) : Bool :=
  spans.any fun (a, b) => a ≤ n && b.all (n ≤ ·)

/-- What is picked of a row by the places of its items. -/
def picked {α : Type} (good : Nat → Bool) (row : List α) : List α :=
  ((List.range row.length).zip row).filterMap fun (i, a) => if good (i + 1) then some a else none

def cutOffer : Offer where
  plain := ['s', 'n', 'z', 'C']
  valued := ['b', 'c', 'f', 'd', 'O']
  names := [("complement", 'C'), ("output-delimiter", 'O'), ("only-delimited", 's'),
    ("delimiter", 'd'), ("fields", 'f'), ("characters", 'c'), ("bytes", 'b')]

def cut (args : Args) : Doing Unit := do
  let o := cutOffer.read args
  let given := o.values.filter fun v => v.1 = 'b' || v.1 = 'c' || v.1 = 'f'
  match o.wrong, given with
  | false, [(letter, list)] =>
    match spans? list, (o.value? 'd').getD ['\t'] with
    | some spans, [mark] =>
      if letter ≠ 'f' && (o.value? 'd').isSome then setStatus 1
      else
        let good (n : Nat) : Bool := inSpans spans n != o.has 'C'
        let glue := (o.value? 'O').getD [mark]
        let part (line : List Char) : Option (List Char) :=
          if letter ≠ 'f' then some (picked good line)
          else if mark ∉ line then (if o.has 's' then none else some line)
          else some (List.intercalate glue (picked good (Text.splitOn mark line)))
        let (lines, all) ← subjectLines o.words
        let _ ← writeTo 1 ((lines.filterMap part).flatMap lineOf)
        succeedIf all
    | _, _ => setStatus 1
  | _, _ => setStatus 1

/-- Break a line into pieces of a width. -/
def folded (width : Nat) : Nat → List Char → List (List Char)
  | 0, cs => [cs]
  | fuel + 1, cs =>
    if cs.length ≤ width then [cs] else cs.take width :: folded width fuel (cs.drop width)

def fold (args : Args) : Doing Unit := do
  let o := Offer.read ⟨['s', 'b'], ['w'], [("width", 'w')]⟩ args
  match natural? ((o.value? 'w').getD ['8', '0']), o.wrong with
  | some width, false =>
    if width = 0 then setStatus 1
    else
      let lines ← subjectLines o.words
      let pieces := lines.1.flatMap fun line => folded width line.length line
      let _ ← writeTo 1 (pieces.flatMap lineOf)
      succeedIf lines.2
  | _, _ => setStatus 1

/-- Rows side by side: the first items of all, the second ones, and so on. -/
def besides : Nat → List (List (List Char)) → List (List (List Char))
  | 0, _ => []
  | fuel + 1, rows =>
    if rows.all (·.isEmpty) then []
    else rows.map (·.headD []) :: besides fuel (rows.map List.tail)

/-- Items with marks between them, which are taken in turn. -/
def interleaved (marks : List Char) : Nat → List (List Char) → List Char
  | _, [] => []
  | _, [a] => a
  | i, a :: rest =>
    let mark := match marks[i % max 1 marks.length]? with
      | some c => [c]
      | none => []
    a ++ mark ++ interleaved marks (i + 1) rest

def paste (args : Args) : Doing Unit := do
  let o := Offer.read ⟨['s'], ['d'], [("serial", 's'), ("delimiters", 'd')]⟩ args
  let given := (o.value? 'd').getD ['\t']
  let marks := (unescape (given.length + 1) given).1
  let names := if o.words.isEmpty then [['-']] else o.words
  let texts ← names.mapM textNamed
  let rows := texts.map fun t => bareLines (t.getD [])
  let dashes := (names.filter (· = ['-'])).length
  -- several dashes take the lines of the input in turn
  let shared := ((names.zip rows).lookup ['-']).getD []
  let turn (k : Nat) : List (List Char) := picked (fun n => (n - 1) % max 1 dashes = k) shared
  let places := (List.range names.length).map fun i => ((names.take i).filter (· = ['-'])).length
  let rows := (names.zip (rows.zip places)).map fun (name, row, k) =>
    if name = ['-'] && 1 < dashes then turn k else row
  let size := (rows.map List.length).foldl max 0
  let shown := if o.has 's' then rows else besides size rows
  let _ ← writeTo 1 (shown.flatMap fun items => lineOf (interleaved marks 0 items))
  succeedIf (!o.wrong && texts.all (·.isSome))

def rev (args : Args) : Doing Unit := do
  match ← subject args with
  | some text =>
    write ((allLines text).flatMap fun line =>
      (bare line).reverse ++ line.drop (bare line).length)
  | none => setStatus 1

def tac (args : Args) : Doing Unit := do
  match ← subject args with
  | some text => write (allLines text).reverse.flatten
  | none => setStatus 1

/-- Lines with their numbers; those without text have none, unless `all` are to. -/
def numberedLines (all : Bool) : Nat → List (List Char) → List Char
  | _, [] => []
  | n, line :: rest =>
    let digits := numeralOf n
    if all || !line.isEmpty then
      List.replicate (6 - digits.length) ' ' ++ digits ++ '\t' :: lineOf line ++
        numberedLines all (n + 1) rest
    else List.replicate 7 ' ' ++ lineOf line ++ numberedLines all n rest

def nl (args : Args) : Doing Unit := do
  let o := Offer.read ⟨['p'], ['b', 'w', 's', 'n', 'v'], [("body-numbering", 'b')]⟩ args
  let (lines, good) ← subjectLines o.words
  let _ ← writeTo 1 (numberedLines (o.value? 'b' = some ['a']) 1 lines)
  succeedIf (good && !o.wrong)

/-! ### Order -/

/-- What lines are put in order by. -/
structure SortKey where
  first : Nat
  last : Option Nat
  flags : List Char

/-- A key such as `2,3n`. -/
def sortKey? (cs : List Char) : Option SortKey := do
  let part (cs : List Char) : Option (Nat × List Char) := do
    let digits := cs.takeWhile Char.isDigit
    let n ← natural? digits
    -- places within a field are not told apart
    let rest := match cs.drop digits.length with
      | '.' :: rest => rest.dropWhile Char.isDigit
      | rest => rest
    return (n, rest)
  let (first, rest) ← part (cs.takeWhile (· ≠ ','))
  if first = 0 then none
  match cs.dropWhile (· ≠ ',') with
  | _ :: cs =>
    let (last, more) ← part cs
    return ⟨first, if last = 0 then none else some last, rest ++ more⟩
  | [] => return ⟨first, none, rest⟩

/-- The fields of a line: between marks, or blanks and what follows them. -/
def partsOf (mark : Option Char) (line : List Char) : List (List Char) :=
  match mark with
  | some c => Text.splitOn c line
  | none => go line.length line
where
  isBlank (c : Char) : Bool := c = ' ' || c = '\t'
  go : Nat → List Char → List (List Char)
    | 0, cs => if cs.isEmpty then [] else [cs]
    | fuel + 1, cs =>
      if cs.isEmpty then []
      else
        let blanks := cs.takeWhile isBlank
        let word := (cs.drop blanks.length).takeWhile (!isBlank ·)
        let size := blanks.length + word.length
        cs.take size :: go fuel (cs.drop size)

/-- The part of a line that a key is about. -/
def SortKey.part (k : SortKey) (mark : Option Char) (line : List Char) : List Char :=
  let fields := partsOf mark line
  let fields := (fields.take (k.last.getD fields.length)).drop (k.first - 1)
  List.intercalate (mark.toList) fields

/-- The number at the beginning of a text: its sign, its whole digits and its places. -/
def leadingNumber (cs : List Char) : Int × List Char :=
  let cs := cs.dropWhile fun c => c = ' ' || c = '\t'
  let (negative, cs) := match cs with
    | '-' :: rest => (true, rest)
    | cs => (false, cs)
  let digits := cs.takeWhile Char.isDigit
  let places := match cs.drop digits.length with
    | '.' :: rest => rest.takeWhile Char.isDigit
    | _ => []
  -- nine places are enough to tell numbers apart
  let places := (places ++ List.replicate 9 '0').take 9
  let n := (Text.readBase 10 0 (digits ++ places)).getD 0
  (if negative then -(Int.ofNat n) else n, cs)

/-- How two texts are ordered under some flags. -/
def orderOf (flags : List Char) (a b : List Char) : Ordering :=
  let trimmed (cs : List Char) : List Char :=
    let cs := if 'b' ∈ flags then cs.dropWhile fun c => c = ' ' || c = '\t' else cs
    let cs := if 'd' ∈ flags then cs.filter fun c => c.isAlphanum || c = ' ' || c = '\t' else cs
    if 'f' ∈ flags then cs.map Char.toUpper else cs
  let found :=
    if 'n' ∈ flags || 'g' ∈ flags then compare (leadingNumber a).1 (leadingNumber b).1
    else compare (String.ofList (trimmed a)) (String.ofList (trimmed b))
  if 'r' ∈ flags then found.swap else found

def sortOffer : Offer where
  plain := ['n', 'r', 'u', 'f', 'b', 'd', 's', 'c', 'C', 'g', 'z', 'm']
  valued := ['k', 't', 'o']
  names := [("numeric-sort", 'n'), ("reverse", 'r'), ("unique", 'u'), ("ignore-case", 'f'),
    ("key", 'k'), ("field-separator", 't'), ("stable", 's'), ("check", 'c'), ("output", 'o')]

/-- How two lines are ordered by keys. -/
def orderByKeys (keys : List SortKey) (mark : Option Char) (flags : List Char) (a b : List Char) :
    Ordering :=
  keys.foldl (fun found k => found.then
    (orderOf (if k.flags.isEmpty then flags else k.flags) (k.part mark a) (k.part mark b))) .eq

/-- Lines of which none is equal to the one before it. -/
def distinct (same : List Char → List Char → Bool) : List (List Char) → List (List Char)
  | a :: b :: rest =>
    if same a b then distinct same (a :: rest) else a :: distinct same (b :: rest)
  | lines => lines
termination_by lines => lines.length

def sort (args : Args) : Doing Unit := do
  let o := sortOffer.read args
  match o.wrong, (o.all 'k').mapM sortKey? with
  | false, some keys =>
    let mark := (o.value? 't').bind (·.head?)
    let (lines, good) ← subjectLines o.words
    let order := if keys.isEmpty then orderOf o.flags else orderByKeys keys mark o.flags
    let whole (a b : List Char) : Ordering :=
      let found := compare (String.ofList a) (String.ofList b)
      if o.has 'r' then found.swap else found
    let last (a b : List Char) : Ordering :=
      if o.has 's' || o.has 'u' then .eq else whole a b
    let sorted := lines.mergeSort fun a b => (order a b).then (last a b) ≠ .gt
    if !good then setStatus 2
    else if o.has 'c' || o.has 'C' then
      let steps := lines.zip lines.tail
      succeedIf (steps.all fun (a, b) =>
        if o.has 'u' then order a b = .lt else (order a b).then (last a b) ≠ .gt)
    else
      let sorted := if o.has 'u' then distinct (fun a b => order a b = .eq) sorted else sorted
      match o.value? 'o' with
      | some name =>
        match placeOf? (← get) name with
        | some path => placeEntry path (some (.file (toBytes (sorted.flatMap lineOf))))
        | none => setStatus 2
      | none => write (sorted.flatMap lineOf)
  | _, _ => setStatus 2

/-- Lines with how often they come one after another. -/
def runsOf (same : List Char → List Char → Bool) : List (List Char) → List (Nat × List Char)
  | [] => []
  | line :: rest =>
    match runsOf same rest with
    | (n, other) :: more =>
      if same line other then (n + 1, line) :: more else (1, line) :: (n, other) :: more
    | [] => [(1, line)]

def uniq (args : Args) : Doing Unit := do
  let o := Offer.read ⟨['c', 'd', 'u', 'i'], [],
    [("count", 'c'), ("repeated", 'd'), ("unique", 'u'), ("ignore-case", 'i')]⟩ args
  let (lines, good) ← subjectLines (o.words.take 1)
  let same (a b : List Char) : Bool :=
    if o.has 'i' then a.map Char.toLower = b.map Char.toLower else a = b
  let runs := (runsOf same lines).filter fun (n, _) =>
    (!o.has 'd' || 1 < n) && (!o.has 'u' || n = 1)
  let shown := runs.flatMap fun (n, line) =>
    let digits := numeralOf n
    let count := List.replicate (7 - digits.length) ' ' ++ digits ++ [' ']
    lineOf (if o.has 'c' then count ++ line else line)
  let _ ← writeTo 1 shown
  succeedIf (good && !o.wrong)

/-! ### Bytes -/

/-- The number of bytes that a word such as `2k` says. -/
def blockSize? (cs : List Char) : Option Nat := do
  let digits := cs.takeWhile Char.isDigit
  let n ← natural? digits
  match cs.drop digits.length with
  | [] | ['c'] => return n
  | ['k'] | ['K'] => return n * 1024
  | ['M'] => return n * 1048576
  | _ => none

/-- Copy blocks of bytes. -/
def dd (args : Args) : Doing Unit := do
  let operand (name : String) : Option (List Char) :=
    (args.filter fun a => (name ++ "=").toList.isPrefixOf a).getLast?.map (·.drop (name.length + 1))
  let size := ((operand "bs" <|> operand "ibs").bind blockSize?).getD 512
  let skip := ((operand "skip").bind blockSize?).getD 0
  let count := (operand "count").bind blockSize?
  let text ← match operand "if" with
    | some name => readFile name
    | none =>
      match count with
      | some n => do some <$> readCount 0 patience ((skip + n) * size)
      | none => do some <$> readAll 0 patience
  match text with
  | none => setStatus 1
  | some text =>
    let text := text.drop (skip * size)
    let text := match count with
      | some n => text.take (n * size)
      | none => text
    match operand "of" with
    | none => write text
    | some name =>
      if isVoid name then setStatus 0
      else match placeOf? (← get) name with
        | some path =>
          placeEntry path (some (.file (toBytes text)))
          setStatus 0
        | none => setStatus 1

/-- How a byte is written by a tool that lists bytes. -/
def byteText (kind : List Char) (c : Char) : List Char :=
  let n := c.toNat
  let digits (base width : Nat) (fill : Char) : List Char :=
    let ds := Nat.toDigits base n
    List.replicate (width - ds.length) fill ++ ds
  let right (cs : List Char) : List Char := List.replicate (4 - cs.length) ' ' ++ cs
  match kind with
  | 'x' :: _ => ' ' :: digits 16 2 '0'
  | 'u' :: _ => right (digits 10 1 ' ')
  | 'd' :: _ =>
    let signed : Int := if n < 128 then n else (n : Int) - 256
    List.replicate (5 - (numeralOf signed).length) ' ' ++ numeralOf signed
  | 'o' :: _ => ' ' :: digits 8 3 '0'
  | _ =>
    match escapes.find? (·.2 = c) with
    | some (letter, _) =>
      if letter = '\\' || letter = 'e' then right (if letter = 'e' then digits 8 3 '0' else [c])
      else right ['\\', letter]
    | none =>
      if n = 0 then right ['\\', '0']
      else if 0x20 ≤ n && n < 0x7f then right [c] else right (digits 8 3 '0')

/-- Rows of so many bytes, each with its address. -/
def dump (kind : List Char) (addresses : Bool) (width : Nat) : Nat → Nat → List Char → List Char
  | 0, _, _ => []
  | fuel + 1, position, cs =>
    let address : List Char :=
      if addresses then
        let ds := Nat.toDigits 8 position
        List.replicate (7 - ds.length) '0' ++ ds
      else []
    if cs.isEmpty then (if addresses then lineOf address else [])
    else
      lineOf (address ++ (cs.take width).flatMap (byteText kind)) ++
        dump kind addresses width fuel (position + min width cs.length) (cs.drop width)

def od (args : Args) : Doing Unit := do
  let o := Offer.read ⟨['v', 'c', 'b', 'a'], ['A', 't', 'N', 'w', 'j'],
    [("format", 't'), ("address-radix", 'A'), ("read-bytes", 'N')]⟩ args
  let kind := if o.has 'c' then ['c'] else if o.has 'b' then ['o', '1'] else (o.value? 't').getD []
  let known : List (List Char) :=
    ["x1", "u1", "d1", "o1", "c"].map String.toList
  match ← subject o.words with
  | none => setStatus 1
  | some text =>
    if kind ∉ known || o.wrong then setStatus 1
    else
      let text := text.drop (((o.value? 'j').bind natural?).getD 0)
      let text := match (o.value? 'N').bind natural? with
        | some n => text.take n
        | none => text
      let width := ((o.value? 'w').bind natural?).getD 16
      write (dump kind (o.value? 'A' ≠ some ['n']) (max 1 width) (text.length + 1) 0 text)

/-- The digits of base 64. -/
def digits64 : List Char :=
  "ABCDEFGHIJKLMNOPQRSTUVWXYZabcdefghijklmnopqrstuvwxyz0123456789+/".toList

/-- Bytes in base 64. -/
def encoded64 : Nat → List Char → List Char
  | 0, _ | _, [] => []
  | fuel + 1, cs =>
    let three := cs.take 3
    let n := (three ++ List.replicate (3 - three.length) '\x00').foldl
      (fun n c => n * 256 + c.toNat) 0
    let ds := [n / 262144, n / 4096 % 64, n / 64 % 64, n % 64].map fun d => digits64.getD d 'A'
    let ds := ds.take (three.length + 1) ++ List.replicate (3 - three.length) '='
    ds ++ encoded64 fuel (cs.drop 3)

/-- The bytes that base 64 stands for, and whether it was all right. -/
def decoded64 : Nat → List Char → List Char × Bool
  | 0, _ | _, [] => ([], true)
  | fuel + 1, cs =>
    let four := cs.take 4
    let bare := four.takeWhile (· ≠ '=')
    match bare.mapM fun c => digits64.findIdx? (· = c) with
    | some ds =>
      let n := (ds ++ List.replicate (4 - ds.length) 0).foldl (fun n d => n * 64 + d) 0
      let three := [n / 65536, n / 256 % 256, n % 256].map Char.ofNat
      let good := four.length = 4 && 2 ≤ bare.length
      let (more, rest) := decoded64 fuel (cs.drop 4)
      (three.take (bare.length - 1) ++ more, good && rest)
    | none => ([], false)

def base64 (args : Args) : Doing Unit := do
  let o := Offer.read ⟨['d', 'i'], ['w'], [("decode", 'd'), ("wrap", 'w')]⟩ args
  match ← subject o.words with
  | none => setStatus 1
  | some text =>
    if o.has 'd' then
      let (found, good) := decoded64 (text.length + 1) (text.filter (· ≠ '\n'))
      let _ ← writeTo 1 found
      succeedIf good
    else
      let all := encoded64 (text.length + 1) text
      match ((o.value? 'w').bind natural?).getD 76 with
      | 0 => write all
      | width => write ((folded width all.length all).filter (!·.isEmpty) |>.flatMap lineOf)

/-- Compare two files. -/
def cmp (args : Args) : Doing Unit := do
  let o := Offer.read ⟨['s', 'l', 'b'], [], [("silent", 's'), ("quiet", 's')]⟩ args
  match o.words with
  | [a, b] =>
    match ← textNamed a, ← textNamed b with
    | some x, some y =>
      if x = y then setStatus 0
      else
        let size := ((x.zip y).takeWhile fun (c, d) => c = d).length
        if !o.has 's' && size < x.length && size < y.length then
          let line := (x.take size).countP (· = '\n') + 1
          let _ ← writeTo 1 (lineOf (a ++ [' '] ++ b ++ " differ: byte ".toList ++
            numeralOf (size + 1) ++ ", line ".toList ++ numeralOf line))
        setStatus 1
    | _, _ => setStatus 2
  | _ => setStatus 2

/-- Filters by their names. -/
def filter? (name : String) : Option (Args → Doing Unit) :=
  match name with
  | "grep" => some (grep [])
  | "egrep" => some (grep ['E'])
  | "fgrep" => some (grep ['F'])
  | "cut" => some cut
  | "fold" => some fold
  | "paste" => some paste
  | "rev" => some rev
  | "tac" => some tac
  | "nl" => some nl
  | "sort" => some sort
  | "uniq" => some uniq
  | "dd" => some dd
  | "od" => some od
  | "base64" => some base64
  | "cmp" => some cmp
  | _ => none

end LanguageClient.Shell
