import LanguageClient.Text.Parts
import LanguageClient.Text.Upper

/-!
# Secret environment variables

A server never inherits variables whose names look like secrets. The patterns are compared without
regard to case and may have a star at either end.
-/

namespace LanguageClient.Environment

/-- The patterns of secret names. -/
def secretPatterns : List String := [
  "*_KEY", "*_SECRET", "*_TOKEN", "*_PASSWORD", "*_CREDENTIAL*", "AWS_*", "GITHUB_TOKEN"]

/-- Whether an upper-case name fits a pattern, itself in upper case. -/
def fits (pattern name : List Char) : Bool :=
  match pattern with
  | '*' :: rest =>
    if pattern.getLast? = some '*' then
      Text.occursIn (rest.reverse.dropWhile (· = '*')).reverse name
    else rest.isSuffixOf name
  | _ =>
    if pattern.getLast? = some '*' then pattern.dropLast.isPrefixOf name
    else name = pattern

/-- Whether a variable of this name is withheld from servers. -/
def isSecret (name : String) : Bool :=
  let upper := Text.upper name.toList
  secretPatterns.any fun pattern => fits (Text.upper pattern.toList) upper

end LanguageClient.Environment
