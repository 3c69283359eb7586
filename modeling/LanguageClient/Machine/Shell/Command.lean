/-!
# Commands of shell scripts

A script is made of commands, and commands of words. A word is a row of pieces: text, values of
parameters, outputs of commands and results of sums, each quoted or not. A text is a row of bytes,
each as the character of that number.
-/

namespace LanguageClient.Shell

/-- What a redirection does with a stream. -/
inductive Way
  | input
  | output
  | append
  /-- To where another stream goes. -/
  | duplicate
  deriving DecidableEq, Repr

mutual

/-- A piece of a word; what is not quoted may fall into several words. -/
inductive Piece where
  | text (quoted : Bool) (cs : List Char)
  /-- The user's home. -/
  | home
  | value (quoted : Bool) (name : String) (use : Use)
  /-- What a command writes. -/
  | output (quoted : Bool) (body : Command)
  | sum (quoted : Bool) (w : List Piece)

/-- What is made of the value of a parameter; `strict` says that an empty value counts as none. -/
inductive Use where
  | plain
  | size
  /-- Another text where there is no value. -/
  | orElse (strict : Bool) (w : List Piece)
  /-- Another text where there is no value, which becomes the value. -/
  | orSet (strict : Bool) (w : List Piece)
  /-- A failure where there is no value. -/
  | orFail (strict : Bool)
  /-- Another text where there is a value. -/
  | andThen (strict : Bool) (w : List Piece)
  /-- The value without what fits a pattern at its beginning. -/
  | cutFront (longest : Bool) (w : List Piece)
  /-- The value without what fits a pattern at its end. -/
  | cutBack (longest : Bool) (w : List Piece)

inductive Redirection where
  | stream (number : Nat) (way : Way) (target : List Piece)
  /-- Input that stands in the script, at this place in the list of such texts. -/
  | document (number : Nat) (index : Nat)

inductive Command where
  | nothing
  /-- Assignments, then the name of a command and its arguments, and redirections for it. -/
  | simple (assignments : List (String × List Piece)) (words : List (List Piece))
      (redirections : List Redirection)
  /-- Commands of which each reads what the one before writes. -/
  | pipeline (parts : List Command)
  | sequence (a b : Command)
  /-- The second only if the first succeeds. -/
  | both (a b : Command)
  /-- The second only if the first fails. -/
  | either (a b : Command)
  | invert (a : Command)
  /-- A command that nobody waits for. -/
  | aside (a : Command)
  | redirected (a : Command) (redirections : List Redirection)
  /-- Commands by themselves: what they set does not last. -/
  | apart (a : Command)
  | condition (test yes no : Command)
  /-- Again and again as long as the test succeeds, or as long as it fails. -/
  | loop (whileFailing : Bool) (test body : Command)
  /-- Once for each word; without words, once for each argument. -/
  | each (name : String) (words : Option (List (List Piece))) (body : Command)
  /-- The first command with a pattern that fits the subject. -/
  | select (subject : List Piece) (arms : List (List (List Piece) × Command))
  | define (name : String) (body : Command)

end

abbrev Word := List Piece

instance : Inhabited Command := ⟨.nothing⟩

/-- The text of a word without quotes or values. -/
def plain? (w : Word) : Option (List Char) :=
  List.flatten <$> w.mapM fun
    | .text false cs => some cs
    | _ => none

end LanguageClient.Shell
