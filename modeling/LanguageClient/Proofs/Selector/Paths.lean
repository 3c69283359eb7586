import LanguageClient.Proofs.Glob.Literal
import LanguageClient.Proofs.Uri.FilePath
import LanguageClient.Selector

/-!
# Patterns and the paths of files

A pattern is matched with the path that the URI of a document is read to have:
`Filter.admits_ofPath`.
What the URI of a file encodes there stays encoded, and so a pattern does not match what it says
where the path has a blank in it: `Filter.misses_blank`.
-/

namespace LanguageClient

open Uri

variable {path uri : List Char} {pattern languageId : String} {f : Filter} {p : Glob.Pattern}

namespace Document

/-- The URI of a path is taken for that of a file, and left as it is. -/
lemma ofUri_ofPath (h : ofPath path = some uri) (languageId : String) :
    ofUri (String.ofList uri) languageId = some ⟨String.ofList uri, "file", languageId⟩ := by
  simp [ofUri, parse_ofPath h]

/-- The path of a document is the one that its URI is read to have. -/
lemma path_of_parse {u : Uri} (h : parse uri = some u) :
    Document.path ⟨String.ofList uri, "file", languageId⟩ = bytesOf u.path := by
  simp [Document.path, h]

end Document

namespace Filter

lemma withPattern_eq_ok_iff : (on "file" languageId).withPattern pattern = .ok f ↔
    ∃ p, readPattern pattern = .ok p ∧ f = ⟨some "file", some languageId, some p⟩ := by
  unfold withPattern
  cases readPattern pattern <;> simp [on, bind, Except.bind, pure, Except.pure, eq_comm]

/-- A path begins with a drive letter that has a bar where URIs have a colon. -/
def BeginsWithBar (path : List Char) : Prop :=
  ∃ letter rest, isLetter letter = true ∧ Path.components path = [letter, '|'] :: rest

/-- Such a rule leaves it to its pattern whether a file in its language is selected. -/
lemma admits_file (uri : String) :
    admits ⟨some "file", some languageId, some p⟩ ⟨uri, "file", languageId⟩ =
      p.isMatch (Document.path ⟨uri, "file", languageId⟩) := by
  simp [admits]

/-- Rules for files in a language select the document of a URI, in this language, when their pattern
matches a text. -/
def SelectBy (uri text : List Char) : Prop :=
  ∀ languageId pattern p, readPattern pattern = .ok p →
    ∃ d f, Document.ofUri (String.ofList uri) languageId = some d ∧
      (on "file" languageId).withPattern pattern = .ok f ∧
      (f.admits d = true ↔ p.Matches (bytesOf text))

/-- A pattern of characters that stand for themselves matches them only. -/
lemma matches_literals_iff {text other : List Char} :
    (Glob.compile (text.map .literal)).Matches (bytesOf other) ↔ other = text := by
  rw [Glob.matches_compile_literals]
  exact bytesOf_injective.eq_iff

/-- There is one such text at most, as there is a pattern for each text alone. -/
lemma SelectBy.eq {uri text other : List Char} (h : SelectBy uri text) (h' : SelectBy uri other) :
    text = other := by
  have hread : readPattern (String.ofList (Glob.escaped text)) =
      .ok (Glob.compile (text.map .literal)) := by
    simp [readPattern, Glob.parse_escaped]
  obtain ⟨d, f, hd, hf, hadmits⟩ := h "" _ _ hread
  obtain ⟨d', f', hd', hf', hadmits'⟩ := h' "" _ _ hread
  obtain rfl := Option.some.inj (hd.symm.trans hd')
  obtain rfl := Except.ok.inj (hf.symm.trans hf')
  rw [hadmits, matches_literals_iff, matches_literals_iff] at hadmits'
  exact (hadmits'.mp rfl).symm

/-- The rules for files select a file by the path that its URI is read to have. -/
lemma selectBy_of_parse {u : Uri} (h : ofPath path = some uri) (hparse : parse uri = some u) :
    SelectBy uri u.path := by
  intro languageId pattern p hread
  refine ⟨_, _, Document.ofUri_ofPath h languageId, withPattern_eq_ok_iff.mpr ⟨p, hread, rfl⟩, ?_⟩
  rw [admits_file, Document.path_of_parse hparse, Glob.Pattern.isMatch_iff]

/--
The rules for files select a file by the path that its URI is read to have, and so by the path that
the host has exactly when that is the same. What is read are the components encoded, with a slash
before each; that is the path of the host when each of its characters stands for itself and one
slash stands before each component and none after the last. A path that begins with a drive letter
and a bar is set apart: whether the bar stays is for the reader of URIs to say, and it does in
`Uri.readFilePath_segmentsOf`.
-/
theorem admits_ofPath (habsolute : Path.isAbsolute path = true)
    (hdots : ['.', '.'] ∉ Path.components path) :
    ∃ uri u, ofPath path = some uri ∧ uri = fileScheme ++ joined (segmentsOf path) ∧
      parse uri = some u ∧ SelectBy uri u.path ∧ (SelectBy uri path ↔ u.path = path) ∧
      (¬ BeginsWithBar path → u.path = joined (segmentsOf path) ∧
        (u.path = path ↔ path = ['/'] ∨
          joined (Path.components path) = path ∧ ∀ c ∈ path, c ≠ '/' → segment [c] = [c])) := by
  have huri : ofPath path = some (fileScheme ++ joined (segmentsOf path)) :=
    ofPath_eq_some_iff.mpr ⟨habsolute, rfl⟩
  obtain ⟨u, hparse, hread⟩ : ∃ u, parse (fileScheme ++ joined (segmentsOf path)) = some u ∧
      u.path = joined (segmentsOf path) := ⟨_, parse_ofPath huri, readFilePath_segmentsOf hdots⟩
  have hselect := selectBy_of_parse huri hparse
  refine ⟨_, u, huri, rfl, hparse, hselect, ⟨hselect.eq, ?_⟩, fun _ => ⟨hread, ?_⟩⟩
  · intro h
    rwa [h] at hselect
  · rw [hread]
    exact joined_segmentsOf_eq_self_iff habsolute

/-- A pattern that says what the URI says. -/
theorem admits_ofPath_blank : Path.isAbsolute "/a b".toList = true ∧
    ['.', '.'] ∉ Path.components "/a b".toList ∧
    ∃ d f, Document.ofUri "file:///a%20b" "yaml" = some d ∧
      (on "file" "yaml").withPattern "/a%20b" = .ok f ∧ f.admits d = true := by
  have habsolute : Path.isAbsolute "/a b".toList = true := rfl
  have hdots : ['.', '.'] ∉ Path.components "/a b".toList := by decide
  have hletter : ¬ BeginsWithBar "/a b".toList := by
    rintro ⟨letter, rest, -, hcomponents⟩
    have hname : Path.components "/a b".toList = ["a b".toList] := by decide
    exact absurd (hname.symm.trans hcomponents) (by simp)
  obtain ⟨uri, u, -, rfl, -, hselect, -, hspelled⟩ := admits_ofPath habsolute hdots
  rw [(hspelled hletter).1] at hselect
  have hread : readPattern "/a%20b" = .ok (Glob.compile ("/a%20b".toList.map .literal)) := rfl
  obtain ⟨d, f, hd, hf, hadmits⟩ := hselect "yaml" "/a%20b" _ hread
  exact ⟨habsolute, hdots, d, f, hd, hf, hadmits.mpr (matches_literals_iff.mpr rfl)⟩

/-- A pattern that says what the path says, and matches it. -/
theorem misses_blank : Path.isAbsolute "/a b".toList = true ∧
    Path.components "/a b".toList = ["a b".toList] ∧
    ∃ uri d f p, ofPath "/a b".toList = some uri ∧
      Document.ofUri (String.ofList uri) "yaml" = some d ∧
      (on "file" "yaml").withPattern "/a b" = .ok f ∧ readPattern "/a b" = .ok p ∧
      p.Matches (bytesOf "/a b".toList) ∧ f.admits d = false := by
  have hread : readPattern "/a b" = .ok (Glob.compile ("/a b".toList.map .literal)) := rfl
  have huri : ofPath "/a b".toList = some "file:///a%20b".toList := rfl
  have hspelled : joined (segmentsOf "/a b".toList) ≠ "/a b".toList := by decide
  refine ⟨rfl, by decide, _, _, _, _, huri, Document.ofUri_ofPath huri "yaml",
    withPattern_eq_ok_iff.mpr ⟨_, hread, rfl⟩, hread, matches_literals_iff.mpr rfl, ?_⟩
  have hparse := parse_ofPath huri
  rw [readFilePath_segmentsOf (by decide)] at hparse
  rw [admits_file, Document.path_of_parse hparse, ← Bool.not_eq_true, Glob.Pattern.isMatch_iff,
    matches_literals_iff]
  exact hspelled

end Filter

end LanguageClient
