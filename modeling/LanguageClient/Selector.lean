import LanguageClient.Glob.Match
import LanguageClient.Launch
import LanguageClient.Uri.Basic

/-!
# Document selectors

A selector is a list of rules on scheme, language and path; a document belongs to the server when it
fits all of some rule.
-/

namespace LanguageClient

/-- An open document, as far as rules need to know it. -/
structure Document where
  uri : String
  scheme : String
  languageId : String
  deriving DecidableEq, Repr, Inhabited

namespace Document

/-- A document with the scheme of its URI; nothing when it has none. -/
def ofUri (uri languageId : String) : Option Document := do
  let u ← Uri.parse uri.toList
  return ⟨uri, String.ofList u.scheme, languageId⟩

/-- What patterns are matched with: the path, or all of a URI that is no URI. -/
def path (d : Document) : List UInt8 :=
  match Uri.parse d.uri.toList with
  | some u => Uri.bytesOf u.path
  | none => Json.utf8 d.uri

end Document

/-- A rule as it is written; what is left out fits anything. -/
structure RawFilter where
  scheme : Option String
  languageId : Option String
  pattern : Option String
  deriving DecidableEq, Repr

namespace RawFilter

open Json.Decode in
def shape : Shape RawFilter where
  name := "struct RawDocumentFilter"
  fields := [
    ⟨["scheme"], .optional, fun r j => return { r with scheme := ← option string j }⟩,
    ⟨["language_id", "languageId", "language"], .optional,
      fun r j => return { r with languageId := ← option string j }⟩,
    ⟨["pattern"], .optional, fun r j => return { r with pattern := ← option string j }⟩]

def decode : Json.Decode RawFilter := shape.read ⟨none, none, none⟩

end RawFilter

/-- A rule whose pattern has been read. -/
structure Filter where
  scheme : Option String
  languageId : Option String
  pattern : Option Glob.Pattern

/-- A pattern that has been read. -/
def readPattern (pattern : String) : Except ConfigurationError Glob.Pattern :=
  match Glob.parse pattern.toList with
  | .ok tokens => .ok (Glob.compile tokens)
  | .error f => .error (.invalidPattern pattern (f.message pattern))

namespace Filter

/-- A rule on scheme and language. -/
def on (scheme languageId : String) : Filter := ⟨some scheme, some languageId, none⟩

def withPattern (f : Filter) (pattern : String) : Except ConfigurationError Filter :=
  return { f with pattern := some (← readPattern pattern) }

def ofRaw (raw : RawFilter) : Except ConfigurationError Filter := do
  match raw.pattern with
  | none => return ⟨raw.scheme, raw.languageId, none⟩
  | some pattern => return ⟨raw.scheme, raw.languageId, some (← readPattern pattern)⟩

/-- Whether a document fits everything that the rule says. -/
def admits (f : Filter) (d : Document) : Bool :=
  f.scheme.all (· = d.scheme) && f.languageId.all (· = d.languageId) &&
    f.pattern.all (·.isMatch d.path)

end Filter

/-- The rules of a server. -/
structure Selector where
  filters : List Filter

namespace Selector

/-- YAML files. -/
def stock : Selector := ⟨[.on "file" "yaml"]⟩

def ofRaw (raw : List RawFilter) : Except ConfigurationError Selector :=
  return ⟨← raw.mapM Filter.ofRaw⟩

/-- Whether a document belongs to the server. -/
def admits (s : Selector) (d : Document) : Bool := s.filters.any (·.admits d)

end Selector

end LanguageClient
