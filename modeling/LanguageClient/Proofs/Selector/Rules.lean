import LanguageClient.Selector
import LanguageClient.Proofs.Diagnostics.Published

/-!
# The rules of a selector

A selector is read from rules as they are written. It cannot be read if the pattern of some rule is
no glob, and then the first such rule is the fault. Once it has been read it admits the documents
that fit one of its rules in all that the rule does not leave out. So what counts is which rules
there are, and neither their order nor their number: `Selector.ofRaw_rules`.
-/

namespace LanguageClient

/-! ### Reading in order -/

section Reading

variable {α β ε : Type} {f : α → Except ε β} {x : α} {y : β} {xs : List α} {e : ε}

lemma mapM_cons_of_ok (h : f x = .ok y) : (x :: xs).mapM f = (xs.mapM f).map (y :: ·) := by
  rw [List.mapM_cons, h]
  cases xs.mapM f <;> rfl

lemma mapM_cons_of_error (h : f x = .error e) : (x :: xs).mapM f = .error e := by
  rw [List.mapM_cons, h]
  rfl

/-- All are read if each can be. -/
lemma exists_mapM_iff : (∃ ys, xs.mapM f = .ok ys) ↔ ∀ x ∈ xs, ∃ y, f x = .ok y := by
  induction xs with
  | nil => exact iff_of_true ⟨[], rfl⟩ (List.forall_mem_nil _)
  | cons x xs ih =>
    rw [List.forall_mem_cons, ← ih]
    cases hx : f x with
    | error e => simp [mapM_cons_of_error hx]
    | ok y =>
      rw [mapM_cons_of_ok hx]
      cases xs.mapM f <;> simp [Except.map]

/-- The first that cannot be read is the fault. -/
lemma mapM_eq_error_iff :
    xs.mapM f = .error e ↔ ∃ before x after, xs = before ++ x :: after ∧
      (∀ z ∈ before, ∃ y, f z = .ok y) ∧ f x = .error e := by
  induction xs with
  | nil =>
    constructor
    · nofun
    · rintro ⟨before, x, after, hxs, -⟩
      cases before <;> cases hxs
  | cons x xs ih =>
    cases hx : f x with
    | error e' =>
      rw [mapM_cons_of_error hx, Except.error.injEq]
      constructor
      · rintro rfl
        exact ⟨[], x, xs, rfl, List.forall_mem_nil _, hx⟩
      · rintro ⟨_ | ⟨z, before⟩, first, after, hxs, hbefore, hfirst⟩
        · obtain ⟨rfl, rfl⟩ := List.cons.inj hxs
          exact Except.error.inj (hx.symm.trans hfirst)
        · obtain ⟨rfl, rfl⟩ := List.cons.inj hxs
          obtain ⟨y, hy⟩ := hbefore x (List.mem_cons_self ..)
          cases hx.symm.trans hy
    | ok y =>
      have hrest : (x :: xs).mapM f = .error e ↔ xs.mapM f = .error e := by
        rw [mapM_cons_of_ok hx]
        cases xs.mapM f <;> simp [Except.map]
      rw [hrest, ih]
      constructor
      · rintro ⟨before, first, after, rfl, hbefore, hfirst⟩
        exact ⟨x :: before, first, after, rfl, List.forall_mem_cons.mpr ⟨⟨y, hx⟩, hbefore⟩, hfirst⟩
      · rintro ⟨_ | ⟨z, before⟩, first, after, hxs, hbefore, hfirst⟩
        · obtain ⟨rfl, rfl⟩ := List.cons.inj hxs
          cases hx.symm.trans hfirst
        · obtain ⟨rfl, rfl⟩ := List.cons.inj hxs
          exact ⟨before, first, after, rfl, (List.forall_mem_cons.mp hbefore).2, hfirst⟩

end Reading

/-! ### What a rule says -/

/-- Patterns are held against the path of a document's URI, or against all of a text that is no
URI. -/
def Document.LiesAt (d : Document) (place : List UInt8) : Prop :=
  (∃ u, Uri.parse d.uri.toList = some u ∧ place = Uri.bytesOf u.path) ∨
    Uri.parse d.uri.toList = none ∧ place = Json.utf8 d.uri

lemma Document.liesAt_iff {d : Document} {place : List UInt8} :
    d.LiesAt place ↔ place = d.path := by
  unfold LiesAt path
  cases Uri.parse d.uri.toList <;> simp

namespace RawFilter

/-- The pattern of a rule is a glob, if the rule has one. -/
def Legible (raw : RawFilter) : Prop :=
  ∀ pattern, raw.pattern = some pattern → ∃ tokens, Glob.parse pattern.toList = .ok tokens

/-- The pattern of a rule is no glob, and the error says which pattern and why. -/
def Fails (raw : RawFilter) (e : ConfigurationError) : Prop :=
  ∃ pattern fault, raw.pattern = some pattern ∧ Glob.parse pattern.toList = .error fault ∧
    e = .invalidPattern pattern (fault.message pattern)

/-- A document is as a rule asks, in all that the rule does not leave out. -/
structure Fits (raw : RawFilter) (d : Document) : Prop where
  scheme : ∀ scheme, raw.scheme = some scheme → d.scheme = scheme
  languageId : ∀ languageId, raw.languageId = some languageId → d.languageId = languageId
  pattern : ∀ pattern, raw.pattern = some pattern → ∃ tokens place,
    Glob.parse pattern.toList = .ok tokens ∧ d.LiesAt place ∧
      (Glob.compile tokens).isMatch place = true

/-- A rule says nothing that another does not say. -/
structure Relaxes (raw other : RawFilter) : Prop where
  scheme : raw.scheme = none ∨ raw.scheme = other.scheme
  languageId : raw.languageId = none ∨ raw.languageId = other.languageId
  pattern : raw.pattern = none ∨ raw.pattern = other.pattern

variable {raw other : RawFilter} {d : Document}

lemma Relaxes.legible (h : raw.Relaxes other) (hother : other.Legible) : raw.Legible := by
  intro pattern hpattern
  rcases h.pattern with hnone | hsame
  · cases hnone.symm.trans hpattern
  · exact hother pattern (hsame.symm.trans hpattern)

/-- What fits a rule fits one that leaves out more. -/
lemma Relaxes.fits (h : raw.Relaxes other) (hfits : other.Fits d) : raw.Fits d where
  scheme scheme hscheme := by
    rcases h.scheme with hnone | hsame
    · cases hnone.symm.trans hscheme
    · exact hfits.scheme scheme (hsame.symm.trans hscheme)
  languageId languageId hlanguage := by
    rcases h.languageId with hnone | hsame
    · cases hnone.symm.trans hlanguage
    · exact hfits.languageId languageId (hsame.symm.trans hlanguage)
  pattern pattern hpattern := by
    rcases h.pattern with hnone | hsame
    · cases hnone.symm.trans hpattern
    · exact hfits.pattern pattern (hsame.symm.trans hpattern)

end RawFilter

namespace Filter

variable {raw : RawFilter} {f : Filter} {d : Document} {e : ConfigurationError}

lemma ofRaw_of_none (h : raw.pattern = none) :
    ofRaw raw = .ok ⟨raw.scheme, raw.languageId, none⟩ := by
  simp only [ofRaw, h]
  rfl

lemma ofRaw_of_some {pattern : String} (h : raw.pattern = some pattern) :
    ofRaw raw = match Glob.parse pattern.toList with
      | .ok tokens => .ok ⟨raw.scheme, raw.languageId, some (Glob.compile tokens)⟩
      | .error fault => .error (.invalidPattern pattern (fault.message pattern)) := by
  simp only [ofRaw, h, readPattern]
  cases Glob.parse pattern.toList <;> rfl

lemma exists_ofRaw_iff : (∃ f, ofRaw raw = .ok f) ↔ raw.Legible := by
  unfold RawFilter.Legible
  cases hpattern : raw.pattern with
  | none => simp [ofRaw_of_none hpattern]
  | some pattern =>
    rw [ofRaw_of_some hpattern]
    cases hparse : Glob.parse pattern.toList <;> simp [hparse]

lemma ofRaw_eq_error_iff : ofRaw raw = .error e ↔ raw.Fails e := by
  unfold RawFilter.Fails
  cases hpattern : raw.pattern with
  | none => simp [ofRaw_of_none hpattern]
  | some pattern =>
    rw [ofRaw_of_some hpattern]
    cases hparse : Glob.parse pattern.toList <;> simp [hparse, eq_comm]

/-- A rule that has been read asks for the scheme and the language that it is written with, and for
a match of its glob. -/
lemma fields_of_ofRaw (h : ofRaw raw = .ok f) :
    f.scheme = raw.scheme ∧ f.languageId = raw.languageId ∧
      ∀ compiled, f.pattern = some compiled ↔ ∃ pattern tokens, raw.pattern = some pattern ∧
        Glob.parse pattern.toList = .ok tokens ∧ compiled = Glob.compile tokens := by
  cases hpattern : raw.pattern with
  | none =>
    rw [ofRaw_of_none hpattern] at h
    cases h
    simp
  | some pattern =>
    rw [ofRaw_of_some hpattern] at h
    cases hparse : Glob.parse pattern.toList with
    | error fault => simp [hparse] at h
    | ok tokens =>
      rw [hparse] at h
      cases h
      simp [hparse, eq_comm]

lemma admits_eq_true_iff : f.admits d = true ↔
    (∀ scheme, f.scheme = some scheme → scheme = d.scheme) ∧
      (∀ languageId, f.languageId = some languageId → languageId = d.languageId) ∧
        ∀ compiled, f.pattern = some compiled → compiled.isMatch d.path = true := by
  simp only [admits, Bool.and_eq_true, Option.all_eq_true, decide_eq_true_eq, and_assoc]

/-- A rule that has been read admits what fits the rule as it is written. -/
lemma admits_iff (h : ofRaw raw = .ok f) : f.admits d = true ↔ raw.Fits d := by
  obtain ⟨hscheme, hlanguage, hpattern⟩ := fields_of_ofRaw h
  rw [admits_eq_true_iff, hscheme, hlanguage]
  constructor
  · rintro ⟨hs, hl, hp⟩
    refine ⟨fun scheme hraw => (hs scheme hraw).symm, fun language hraw => (hl language hraw).symm,
      fun pattern hraw => ?_⟩
    obtain ⟨tokens, hparse⟩ := exists_ofRaw_iff.mp ⟨f, h⟩ pattern hraw
    have hmatch := hp (Glob.compile tokens) ((hpattern _).mpr ⟨pattern, tokens, hraw, hparse, rfl⟩)
    exact ⟨tokens, d.path, hparse, Document.liesAt_iff.mpr rfl, hmatch⟩
  · intro hfits
    refine ⟨fun scheme hraw => (hfits.scheme scheme hraw).symm,
      fun language hraw => (hfits.languageId language hraw).symm, fun compiled hcompiled => ?_⟩
    obtain ⟨pattern, tokens, hraw, hparse, rfl⟩ := (hpattern compiled).mp hcompiled
    obtain ⟨tokens', place, hparse', hplace, hmatch⟩ := hfits.pattern pattern hraw
    obtain rfl := Except.ok.inj (hparse.symm.trans hparse')
    rw [Document.liesAt_iff] at hplace
    exact hplace ▸ hmatch

/-- A rule that leaves out more can be read too, and admits no fewer documents. -/
lemma exists_ofRaw_of_relaxes {other : RawFilter} (hother : other.Relaxes raw)
    (h : ofRaw raw = .ok f) :
    ∃ g, ofRaw other = .ok g ∧ ∀ d, f.admits d = true → g.admits d = true := by
  obtain ⟨g, hg⟩ := exists_ofRaw_iff.mpr (hother.legible (exists_ofRaw_iff.mp ⟨f, h⟩))
  refine ⟨g, hg, fun d hd => ?_⟩
  rw [admits_iff h] at hd
  exact (admits_iff hg).mpr (hother.fits hd)

end Filter

/-! ### What a selector admits -/

namespace Selector

variable {raw other : List RawFilter} {s s' : Selector} {d : Document} {e : ConfigurationError}

lemma ofRaw_eq_map (raw : List RawFilter) : ofRaw raw = (raw.mapM Filter.ofRaw).map .mk := by
  rw [ofRaw]
  cases raw.mapM Filter.ofRaw <;> rfl

lemma ofRaw_eq_error_iff : ofRaw raw = .error e ↔
    ∃ before rule after, raw = before ++ rule :: after ∧ (∀ r ∈ before, r.Legible) ∧
      rule.Fails e := by
  have hread : ofRaw raw = .error e ↔ raw.mapM Filter.ofRaw = .error e := by
    rw [ofRaw_eq_map]
    cases raw.mapM Filter.ofRaw <;> simp [Except.map]
  simp only [hread, mapM_eq_error_iff, Filter.exists_ofRaw_iff, Filter.ofRaw_eq_error_iff]

lemma exists_ofRaw_iff : (∃ s, ofRaw raw = .ok s) ↔ ∀ rule ∈ raw, rule.Legible := by
  have hread : (∃ s, ofRaw raw = .ok s) ↔ ∃ filters, raw.mapM Filter.ofRaw = .ok filters := by
    rw [ofRaw_eq_map]
    cases raw.mapM Filter.ofRaw <;> simp [Except.map]
  simp only [hread, exists_mapM_iff, Filter.exists_ofRaw_iff]

lemma any_admits_iff {filters : List Filter}
    (h : List.Forall₂ (fun rule f => Filter.ofRaw rule = .ok f) raw filters) :
    filters.any (·.admits d) = true ↔ ∃ rule ∈ raw, rule.Fits d := by
  induction h with
  | nil => simp
  | cons hrule _ ih =>
    rw [List.any_cons, Bool.or_eq_true, Filter.admits_iff hrule, ih]
    simp

/-- A selector that has been read admits what fits one of its rules as they are written. -/
lemma admits_iff (h : ofRaw raw = .ok s) : s.admits d = true ↔ ∃ rule ∈ raw, rule.Fits d := by
  rw [ofRaw_eq_map] at h
  cases hread : raw.mapM Filter.ofRaw with
  | error e => simp [hread, Except.map] at h
  | ok filters =>
    obtain rfl : ⟨filters⟩ = s := by simpa [hread, Except.map] using h
    exact any_admits_iff (forall₂_of_mapM hread)

/-- A selector of more rules admits no fewer documents. -/
lemma admits_of_subset (hsub : raw ⊆ other) (h : ofRaw raw = .ok s) (h' : ofRaw other = .ok s')
    (hd : s.admits d = true) : s'.admits d = true := by
  obtain ⟨rule, hrule, hfits⟩ := (admits_iff h).mp hd
  exact (admits_iff h').mpr ⟨rule, hsub hrule, hfits⟩

/--
Rules can be read unless the pattern of one of them is no glob, and the first such rule is the
fault. What has been read admits a document exactly when some rule fits it in all that the rule does
not leave out. So the same rules in another order or another number admit the same documents, more
rules admit no fewer, no rules admit none, and a rule that leaves out more admits no fewer.
-/
theorem ofRaw_rules (raw : List RawFilter) :
    ((∃ e, ofRaw raw = .error e) ↔ ∃ rule ∈ raw, ¬rule.Legible) ∧
    (∀ e, ofRaw raw = .error e ↔ ∃ before rule after, raw = before ++ rule :: after ∧
      (∀ r ∈ before, r.Legible) ∧ rule.Fails e) ∧
    (∀ s, ofRaw raw = .ok s →
      (∀ d, s.admits d = true ↔ ∃ rule ∈ raw, rule.Fits d) ∧
      (∀ other, (∀ rule, rule ∈ other ↔ rule ∈ raw) →
        ∃ s', ofRaw other = .ok s' ∧ ∀ d, s'.admits d = s.admits d) ∧
      ∀ other s', raw ⊆ other → ofRaw other = .ok s' →
        ∀ d, s.admits d = true → s'.admits d = true) ∧
    (∃ s, ofRaw [] = .ok s ∧ ∀ d, s.admits d = false) ∧
    ∀ rule f, Filter.ofRaw rule = .ok f → ∀ other : RawFilter, other.Relaxes rule →
      ∃ g, Filter.ofRaw other = .ok g ∧ ∀ d, f.admits d = true → g.admits d = true := by
  refine ⟨?_, fun e => ofRaw_eq_error_iff, ?_, ⟨⟨[]⟩, rfl, fun _ => rfl⟩,
    fun rule f h other hother => Filter.exists_ofRaw_of_relaxes hother h⟩
  · have hread : (∃ s, ofRaw raw = .ok s) ↔ ∀ rule ∈ raw, rule.Legible := exists_ofRaw_iff
    cases h : ofRaw raw with
    | error e => simpa [h] using hread
    | ok s => simpa [h] using hread
  · intro s h
    refine ⟨fun d => admits_iff h, fun other hsame => ?_, fun other s' hsub h' d =>
      admits_of_subset hsub h h'⟩
    have hlegible := exists_ofRaw_iff.mp ⟨s, h⟩
    obtain ⟨s', h'⟩ := exists_ofRaw_iff.mpr fun rule hrule => hlegible rule ((hsame rule).mp hrule)
    refine ⟨s', h', fun d => Bool.eq_iff_iff.mpr ?_⟩
    simp only [admits_iff h, admits_iff h', hsame]

end Selector

end LanguageClient
