import LanguageClient.Machine.Shell.Env

/-!
# Lines and options

What the tools have in common: the words that they are given, and the lines that they read.
-/

namespace LanguageClient.Shell

abbrev Args := List (List Char)

/-- A text as a line. -/
def lineOf (cs : List Char) : List Char := cs ++ ['\n']

/-- The number that a word is. -/
def natural? (cs : List Char) : Option Nat :=
  if cs.isEmpty || !cs.all (·.isDigit) then none else Text.readBase 10 0 cs

def numeralOf (n : Int) : List Char := (Int.repr n).toList

/-- The text of a name, as characters. -/
def nameOf (cs : List Char) : String := String.ofList cs

/-! ### Options -/

/-- What the words of a command ask for. -/
structure Options where
  flags : List Char
  /-- Letters with the values that follow them, in their order. -/
  values : List (Char × List Char)
  words : Args
  /-- Whether there is an option that the command does not have. -/
  wrong : Bool

/-- The options that a command has: letters, letters with a value, and the names of some. -/
structure Offer where
  plain : List Char
  valued : List Char
  names : List (String × Char)

namespace Options

def none : Options := ⟨[], [], [], false⟩

def has (o : Options) (c : Char) : Bool := c ∈ o.flags

/-- The value that was given last for a letter. -/
def value? (o : Options) (c : Char) : Option (List Char) :=
  (o.values.filter (·.1 = c)).getLast?.map (·.2)

def all (o : Options) (c : Char) : Args := (o.values.filter (·.1 = c)).map (·.2)

/-- What the letters of a word ask for, if the last of them does not take the next word. -/
def letters (f : Offer) : List Char → Options → Options × Option Char
  | [], o => (o, Option.none)
  | c :: cs, o =>
    if c ∈ f.plain then letters f cs { o with flags := o.flags ++ [c] }
    else if c ∈ f.valued then
      if cs.isEmpty then (o, some c) else ({ o with values := o.values ++ [(c, cs)] }, Option.none)
    else ({ o with wrong := true }, Option.none)

/-- The letter of an option's name, which may be cut short. -/
def letter? (f : Offer) (name : List Char) : Option Char :=
  (f.names.lookup (nameOf name)) <|>
    ((f.names.find? fun n => name.isPrefixOf n.1.toList).map (·.2))

/-- What words ask for; `open` is a letter that takes the next one. -/
def read (f : Offer) : Option Char → Args → Options → Options
  | some _, [], o => { o with wrong := true }
  | Option.none, [], o => o
  | some c, w :: rest, o => read f Option.none rest { o with values := o.values ++ [(c, w)] }
  | Option.none, w :: rest, o =>
    match w with
    | ['-', '-'] => { o with words := o.words ++ rest }
    | '-' :: '-' :: name =>
      let own := name.takeWhile (· ≠ '=')
      let given := name.drop (own.length + 1)
      match letter? f own with
      | some c =>
        if c ∈ f.plain then read f Option.none rest { o with flags := o.flags ++ [c] }
        else if '=' ∈ name then read f Option.none rest { o with values := o.values ++ [(c, given)] }
        else read f (some c) rest o
      | Option.none => read f Option.none rest { o with wrong := true }
    | '-' :: c :: cs =>
      let (o, wanted) := letters f (c :: cs) o
      read f wanted rest o
    | w => read f Option.none rest { o with words := o.words ++ [w] }

end Options

/-- What words ask of a command that has some options. -/
def Offer.read (f : Offer) (args : Args) : Options := Options.read f Option.none args .none

/-- Words that are no options, and the letters of those that are. -/
def options (args : Args) : List Char × Args :=
  let isOption (a : List Char) : Bool := a.length > 1 && a.head? = some '-'
  ((args.filter isOption).flatMap (·.drop 1), args.filter (!isOption ·))

/-! ### Lines -/

/-- Split a text into its lines, each with the character that ends it. -/
def linesOf : Nat → List Char → List (List Char)
  | 0, _ | _, [] => []
  | fuel + 1, cs =>
    let size := (cs.takeWhile (· ≠ '\n')).length + 1
    cs.take size :: linesOf fuel (cs.drop size)

def allLines (cs : List Char) : List (List Char) := linesOf (cs.length + 1) cs

/-- A line without the character that ends it. -/
def bare (line : List Char) : List Char :=
  if line.getLast? = some '\n' then line.dropLast else line

/-- The lines of a text without the characters that end them. -/
def bareLines (cs : List Char) : List (List Char) := (allLines cs).map bare

/-- The text of a file, or of the input where a dash stands for it. -/
def textNamed (name : List Char) : Doing (Option (List Char)) := do
  if name = ['-'] then some <$> readAll 0 patience else readFile name

/-- The text that a command is about: that of its files, or all of the input. -/
def subject (names : Args) : Doing (Option (List Char)) := do
  if names.isEmpty then some <$> readAll 0 patience
  else
    let texts ← names.mapM textNamed
    return (texts.mapM id).map List.flatten

/-- The lines of the files or of the input; whether all files were there. -/
def subjectLines (names : Args) : Doing (List (List Char) × Bool) := do
  if names.isEmpty then return (bareLines (← readAll 0 patience), true)
  let texts ← names.mapM textNamed
  return (texts.flatMap fun t => bareLines (t.getD []), texts.all (·.isSome))

end LanguageClient.Shell
