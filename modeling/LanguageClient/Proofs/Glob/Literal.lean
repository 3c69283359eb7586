import LanguageClient.Proofs.Glob.Matches
import LanguageClient.Proofs.Text.Utf8

/-!
# Literal globs

A text with a backslash before each character is read as these characters: `parse_escaped`. Such a
glob matches this text and no other: `matches_compile_literals`.
-/

namespace LanguageClient.Glob

variable {p : Pattern} {parts : List Pattern} {text bytes : List UInt8} {b : UInt8}

lemma matches_seq_cons : (Pattern.seq (p :: parts)).Matches text ↔
    ∃ first rest, text = first ++ rest ∧ p.Matches first ∧ (Pattern.seq parts).Matches rest := by
  constructor
  · intro h
    cases h with
    | next hp hparts => exact ⟨_, _, rfl, hp, hparts⟩
  · rintro ⟨first, rest, rfl, hp, hparts⟩
    exact .next hp hparts

lemma matches_seq_nil : (Pattern.seq []).Matches text ↔ text = [] := by
  constructor
  · intro h
    cases h
    rfl
  · rintro rfl
    exact .done

lemma matches_single : (Pattern.byte (.single b)).Matches text ↔ text = [b] := by
  have hhas (b' : UInt8) : (ByteSet.single b).has b' = true ↔ b' = b := by
    simp [ByteSet.has, ByteSet.single, ← UInt8.toNat_inj, UInt8.le_iff_toNat_le]
    omega
  constructor
  · intro h
    cases h with
    | byte hb => rw [(hhas _).mp hb]
  · rintro rfl
    exact .byte ((hhas b).mpr rfl)

lemma matches_bytes :
    (Pattern.seq (bytes.map fun b => .byte (.single b))).Matches text ↔ text = bytes := by
  induction bytes generalizing text with
  | nil => exact matches_seq_nil
  | cons b bytes ih => simp [matches_seq_cons, matches_single, ih]

/-- Tokens for the characters of a text match its bytes. -/
lemma matches_literals (cs : List Char) : (Pattern.seq (patterns (cs.map .literal))).Matches text ↔
    text = Json.utf8 (String.ofList cs) := by
  induction cs generalizing text with
  | nil => exact matches_seq_nil
  | cons c cs ih =>
    have hsplit : Json.utf8 (String.ofList (c :: cs)) =
        Json.utf8 (String.singleton c) ++ Json.utf8 (String.ofList cs) := by
      rw [String.singleton_eq_ofList, Json.utf8_ofList, Json.utf8_ofList, Json.utf8_ofList]
      simp
    simp only [List.map_cons, patterns, Token.pattern, matches_seq_cons, matches_bytes, ih, hsplit]
    constructor
    · rintro ⟨_, _, rfl, rfl, rfl⟩
      rfl
    · rintro rfl
      exact ⟨_, _, rfl, rfl, rfl⟩

/-! ### Reading -/

/-- A text with a backslash before each character. -/
def escaped (cs : List Char) : List Char := cs.flatMap fun c => ['\\', c]

lemma foldlM_escaped (cs : List Char) {q : Partial} (hq : q.mode = .plain) :
    ∃ q', (escaped cs).foldlM Partial.step q = .ok q' ∧ q'.mode = .plain ∧ q'.outer = q.outer ∧
      q'.here.current = (cs.map .literal).reverse ++ q.here.current := by
  induction cs generalizing q with
  | nil => exact ⟨q, rfl, hq, rfl, rfl⟩
  | cons c cs ih =>
    have hback : q.step '\\' = .ok { q with mode := .escaped, before := some '\\' } := by
      simp only [Partial.step, Partial.act, hq]
      rfl
    obtain ⟨q', hread, hmode, houter, hcurrent⟩ :=
      ih (q := { q.push (.literal c) with mode := .plain, before := some c }) rfl
    have hsteps : (escaped (c :: cs)).foldlM Partial.step q = (do
        (escaped cs).foldlM Partial.step (← (← q.step '\\').step c)) := rfl
    refine ⟨q', ?_, hmode, houter, ?_⟩
    · rw [hsteps, hback]
      exact hread
    · simp [hcurrent, Partial.push, Group.push]

/-- It is read as the characters. -/
lemma parse_escaped (cs : List Char) : parse (escaped cs) = .ok (cs.map .literal) := by
  obtain ⟨q, hread, hmode, houter, hcurrent⟩ := foldlM_escaped cs (q := .start) rfl
  have hclose : q.finish = .ok (cs.map .literal) := by
    simp [Partial.finish, hmode, Partial.close, houter, Partial.start, hcurrent, Group.empty]
  rw [parse, hread]
  exact hclose

lemma compile_literals (cs : List Char) :
    compile (cs.map .literal) = .seq (patterns (cs.map .literal)) := by
  cases cs with
  | nil => rfl
  | cons c cs => rfl

/-- For each text there is a glob that matches it and no other. -/
theorem matches_compile_literals (cs : List Char) (text : List UInt8) :
    (compile (cs.map .literal)).Matches text ↔ text = Json.utf8 (String.ofList cs) := by
  rw [compile_literals, matches_literals]

end LanguageClient.Glob
