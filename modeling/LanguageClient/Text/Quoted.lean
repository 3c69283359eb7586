import LanguageClient.Text.Shown

/-!
# Quoted text

A text between double quotes on one line: quotes, backslashes and the common control characters are
escaped by a letter, and whatever is not shown as it is by its code point in braces.
-/

namespace LanguageClient.Text

/-- The code point of a character in hexadecimal, in braces. -/
def codePointEscape (c : Char) : List Char :=
  '\\' :: 'u' :: '{' :: Nat.toDigits 16 c.toNat ++ ['}']

/-- A character as it stands between quotes. -/
def quoteChar (c : Char) : List Char :=
  if c.toNat = 0 then ['\\', '0']
  else if c = '\t' then ['\\', 't']
  else if c = '\r' then ['\\', 'r']
  else if c = '\n' then ['\\', 'n']
  else if c = '\\' then ['\\', '\\']
  else if c = '"' then ['\\', '"']
  else if isShown c then [c]
  else codePointEscape c

/-- A text in quotes. -/
def quote (cs : List Char) : List Char := '"' :: cs.flatMap quoteChar ++ ['"']

/-- A string in quotes. -/
def quoteString (s : String) : String := String.ofList (quote s.toList)

end LanguageClient.Text
