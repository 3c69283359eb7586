import LanguageClient.Text.Upper
import Mathlib.Data.List.Basic

/-!
# Stars in upper case

A text has a star in upper case only if it has one itself: no character but the star becomes one,
which is read off the tables (`Text.star_mem_upper_iff`).
-/

namespace LanguageClient.Text

/-! ### Look-ups in tables -/

namespace Spans

variable {t : Spans} {s : Span}

lemma mem_of_search {n low high : Nat} (h : t.search n low high = some s) : s ∈ t := by
  fun_induction search t n low high with
  | case1 => cases h
  | case2 low high _ r hr _ ih => exact ih h
  | case3 low high _ r hr _ _ ih => exact ih h
  | case4 low high _ r hr =>
    obtain rfl : r = s := by simpa using h
    exact Array.mem_of_getElem? hr
  | case5 => cases h
  | case6 => cases h

lemma mem_of_find? {c : Char} (h : t.find? c = some s) : s ∈ t := mem_of_search h

end Spans

/-! ### What the tables note -/

/-- A span notes no code points up to that of the star. -/
def Span.Starless (s : Span) : Prop := ∀ n ∈ s.numbers 16, '*'.toNat < n

instance (s : Span) : Decidable s.Starless :=
  inferInstanceAs (Decidable (∀ n ∈ s.numbers 16, '*'.toNat < n))

lemma toNat_of_ofNat_eq_star {n : Nat} (h : Char.ofNat n = '*') : n = '*'.toNat := by
  by_cases hvalid : n.isValidChar
  · have hval : (Char.ofNat n).toNat = n := by
      rw [Char.ofNat, dif_pos hvalid]
      rfl
    rw [← hval, h]
  · rw [Char.ofNat, dif_neg hvalid] at h
    exact absurd h (by decide)

lemma Span.Starless.star_not_mem_image {s : Span} (h : s.Starless) (n : Nat) :
    '*' ∉ s.image n := by
  intro hmem
  unfold image at hmem
  split at hmem
  case h_1 target htarget =>
    have hlt : '*'.toNat < target := h target (by simp [htarget])
    have heq := toNat_of_ofNat_eq_star (List.mem_singleton.mp hmem).symm
    omega
  case h_2 =>
    obtain ⟨m, hm, hstar⟩ := List.mem_map.mp hmem
    have hlt := h m hm
    rw [toNat_of_ofNat_eq_star hstar] at hlt
    exact absurd hlt (Nat.lt_irrefl _)

/-- The words of a table are looked at one by one. -/
lemma Spans.starless_of_words {cs : List Char}
    (h : ∀ s ∈ (splitOn ' ' (cs.map fun c => if isBlank c then ' ' else c)).filterMap Span.ofWord,
      s.Starless) : ∀ s ∈ Spans.ofText (String.ofList cs), s.Starless := by
  simpa [ofText] using h

-- The text of a table is matched with the list of its characters, which nests deeply.
set_option maxRecDepth 3000 in
lemma starless_of_mem_upperSpans {s : Span} (h : s ∈ upperSpans) : s.Starless := by
  have htables : ∀ text ∈ upperTables, ∀ s ∈ Spans.ofText text, s.Starless := by
    simp only [upperTables, List.forall_mem_cons]
    refine ⟨?_, ?_, ?_, ?_, ?_, ?_, ?_, ?_, ?_, ?_, ?_, ?_, ?_, nofun⟩ <;>
      exact Spans.starless_of_words (by decide +kernel)
  obtain ⟨text, htext, hs⟩ := Array.mem_flatMap.mp h
  exact htables text (by simpa using htext) s hs

/-! ### Upper case -/

lemma eq_star_of_toUpper {c : Char} (h : c.toUpper = '*') : c = '*' := by
  revert h
  unfold Char.toUpper
  split
  case isTrue hlower =>
    intro h
    obtain ⟨hlow, hhigh⟩ := hlower
    have hval := congrArg (fun c : Char => c.val.toNat) h
    rw [UInt32.le_iff_toNat_le] at hlow hhigh
    simp only [UInt32.toNat_add, UInt32.toNat_sub] at hval
    simp at hval hlow hhigh
    omega
  case isFalse => exact id

@[simp] lemma upperChar_star : upperChar '*' = ['*'] := by decide

lemma star_mem_upperChar_iff {c : Char} : '*' ∈ upperChar c ↔ c = '*' := by
  constructor
  · intro hmem
    unfold upperChar at hmem
    split at hmem
    case isTrue => exact eq_star_of_toUpper (List.mem_singleton.mp hmem).symm
    case isFalse =>
      split at hmem
      case h_1 s hs =>
        have hstarless := starless_of_mem_upperSpans (Spans.mem_of_find? hs)
        exact absurd hmem (hstarless.star_not_mem_image c.toNat)
      case h_2 => exact (List.mem_singleton.mp hmem).symm
  · rintro rfl
    simp

@[simp] lemma upper_nil : upper [] = [] := rfl

@[simp] lemma upper_star_cons (cs : List Char) : upper ('*' :: cs) = '*' :: upper cs := by
  simp [upper]

@[simp] lemma upper_append (cs cs' : List Char) : upper (cs ++ cs') = upper cs ++ upper cs' :=
  List.flatMap_append

lemma star_mem_upper_iff {cs : List Char} : '*' ∈ upper cs ↔ '*' ∈ cs := by
  simp [upper, star_mem_upperChar_iff]

end LanguageClient.Text
