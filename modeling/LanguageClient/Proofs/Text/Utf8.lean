import LanguageClient.Json.Printer
import LanguageClient.Text.Utf8
import Mathlib.Tactic.IntervalCases

/-!
# The bytes of a text

The UTF-8 bytes of a text are scanned without a fault, one character after another, and read back
as the text; no other bytes are (`fault?_eq_none_iff`). ASCII text is its own UTF-8.
-/

namespace LanguageClient

namespace Text.Utf8

variable {index n : Nat} {rest : List UInt8} {o : Open} {b : UInt8}

lemma scan_ascii (h : n < 0x80) :
    scan index none (UInt8.ofNat n :: rest) = scan (index + 1) none rest := by
  have hlow : UInt8.ofNat n < 0x80 := by
    rw [UInt8.lt_iff_toNat_lt, UInt8.toNat_ofNat_of_lt' (by simp [UInt8.size]; omega)]
    exact h
  simp [scan, hlow]

lemma scan_lead (h : 0x80 ≤ n) (hn : n < 0x100) (hlead : lead (UInt8.ofNat n) = some o) :
    scan index none (UInt8.ofNat n :: rest) = scan (index + 1) (some o) rest := by
  have hhigh : ¬UInt8.ofNat n < 0x80 := by
    rw [UInt8.lt_iff_toNat_lt, UInt8.toNat_ofNat_of_lt' hn]
    exact Nat.not_lt_of_le h
  simp [scan, hhigh, hlead]

/-- A byte after the first, within the range that the bytes before it leave. -/
lemma scan_tail (hn : n < 0x100) (hlow : o.low.toNat ≤ n) (hhigh : n ≤ o.high.toNat) :
    scan index (some o) (UInt8.ofNat n :: rest) =
      scan (index + 1)
        (if o.after = 0 then none else some ⟨o.seen + 1, 0x80, 0xBF, o.after - 1⟩) rest := by
  have hrange : o.low ≤ UInt8.ofNat n ∧ UInt8.ofNat n ≤ o.high := by
    rw [UInt8.le_iff_toNat_le, UInt8.le_iff_toNat_le, UInt8.toNat_ofNat_of_lt' hn]
    exact ⟨hlow, hhigh⟩
  simp only [scan, hrange.1, hrange.2, decide_true, Bool.and_self, if_true]
  split <;> rfl

lemma lead_two (hlow : 0xC2 ≤ n) (hhigh : n < 0xE0) :
    lead (UInt8.ofNat n) = some ⟨1, 0x80, 0xBF, 0⟩ := by
  have hn : n < UInt8.size := Nat.lt_trans hhigh (by decide)
  have hrange : 0xC2 ≤ UInt8.ofNat n ∧ UInt8.ofNat n ≤ 0xDF := by
    rw [UInt8.le_iff_toNat_le, UInt8.le_iff_toNat_le, UInt8.toNat_ofNat_of_lt' hn]
    exact ⟨hlow, Nat.le_of_lt_succ hhigh⟩
  simp [lead, hrange]

/-- Three bytes would be more than needed below `0xE0 0xA0`, and stand for no character from
`0xED 0xA0` on. -/
lemma lead_three (h : n < 0x10) :
    lead (UInt8.ofNat (n + 0xE0)) =
      some ⟨1, if n = 0 then 0xA0 else 0x80, if n = 0xD then 0x9F else 0xBF, 1⟩ := by
  interval_cases n <;> rfl

/-- Four bytes would be more than needed below `0xF0 0x90`, and stand for no character from
`0xF4 0x90` on. -/
lemma lead_four (h : n < 5) :
    lead (UInt8.ofNat (n + 0xF0)) =
      some ⟨1, if n = 0 then 0x90 else 0x80, if n = 4 then 0x8F else 0xBF, 2⟩ := by
  interval_cases n <;> rfl

lemma scan_two {v : Nat} (hlow : 0x80 ≤ v) (hhigh : v < 0x800) :
    scan index none (UInt8.ofNat (v / 64 % 32 + 192) :: UInt8.ofNat (v % 64 + 128) :: rest) =
      scan (index + 2) none rest := by
  have hlead := lead_two (n := v / 64 % 32 + 192) (by omega) (by omega)
  rw [scan_lead (by omega) (by omega) hlead, scan_tail (by omega) (by simp) (by simp; omega)]
  rfl

lemma scan_three {v : Nat} (hlow : 0x800 ≤ v) (hhigh : v < 0x10000)
    (hvalid : v < 0xD800 ∨ 0xDFFF < v) :
    scan index none (UInt8.ofNat (v / 4096 % 16 + 224) :: UInt8.ofNat (v / 64 % 64 + 128) ::
        UInt8.ofNat (v % 64 + 128) :: rest) =
      scan (index + 3) none rest := by
  obtain ⟨n, hn⟩ : ∃ n, v / 4096 % 16 = n := ⟨_, rfl⟩
  have hlead := lead_three (n := n) (by omega)
  have hleast : (if n = 0 then 0xA0 else 0x80 : UInt8).toNat ≤ v / 64 % 64 + 128 := by
    split <;> simp only [UInt8.reduceToNat] <;> omega
  have hmost : v / 64 % 64 + 128 ≤ (if n = 0xD then 0x9F else 0xBF : UInt8).toNat := by
    split <;> simp only [UInt8.reduceToNat] <;> omega
  rw [hn, scan_lead (by omega) (by omega) hlead, scan_tail (by omega) hleast hmost]
  simp only [Nat.succ_ne_zero, if_false]
  rw [scan_tail (by omega) (by simp) (by simp; omega)]
  rfl

lemma scan_four {v : Nat} (hlow : 0x10000 ≤ v) (hhigh : v < 0x110000) :
    scan index none (UInt8.ofNat (v / 262144 % 8 + 240) :: UInt8.ofNat (v / 4096 % 64 + 128) ::
        UInt8.ofNat (v / 64 % 64 + 128) :: UInt8.ofNat (v % 64 + 128) :: rest) =
      scan (index + 4) none rest := by
  obtain ⟨n, hn⟩ : ∃ n, v / 262144 % 8 = n := ⟨_, rfl⟩
  have hlead := lead_four (n := n) (by omega)
  have hleast : (if n = 0 then 0x90 else 0x80 : UInt8).toNat ≤ v / 4096 % 64 + 128 := by
    split <;> simp only [UInt8.reduceToNat] <;> omega
  have hmost : v / 4096 % 64 + 128 ≤ (if n = 4 then 0x8F else 0xBF : UInt8).toNat := by
    split <;> simp only [UInt8.reduceToNat] <;> omega
  rw [hn, scan_lead (by omega) (by omega) hlead, scan_tail (by omega) hleast hmost]
  simp only [Nat.succ_ne_zero, if_false]
  rw [scan_tail (by omega) (by simp) (by simp; omega)]
  simp only [Nat.succ_ne_zero, if_false]
  rw [scan_tail (by omega) (by simp) (by simp; omega)]
  rfl

/-- A character is scanned as a whole. -/
lemma scan_char (c : Char) (index : Nat) (rest : List UInt8) :
    ∃ next, scan index none (String.utf8EncodeChar c ++ rest) = scan next none rest := by
  obtain ⟨v, hv⟩ : ∃ v, c.val.toNat = v := ⟨_, rfl⟩
  have hvalid : v < 0xD800 ∨ 0xDFFF < v ∧ v < 0x110000 := hv ▸ c.valid
  simp only [String.utf8EncodeChar, hv]
  split
  case isTrue hone => exact ⟨_, scan_ascii (by omega)⟩
  case isFalse hone =>
    split
    case isTrue htwo => exact ⟨_, scan_two (by omega) (by omega)⟩
    case isFalse htwo =>
      split
      case isTrue hthree => exact ⟨_, scan_three (by omega) (by omega) (by omega)⟩
      case isFalse hthree => exact ⟨_, scan_four (by omega) (by omega)⟩

lemma scan_chars (cs : List Char) (index : Nat) :
    scan index none (cs.flatMap String.utf8EncodeChar) = none := by
  induction cs generalizing index with
  | nil => rfl
  | cons c cs ih =>
    obtain ⟨next, hnext⟩ := scan_char c index (cs.flatMap String.utf8EncodeChar)
    rw [List.flatMap_cons, hnext, ih]

/-! ### From bytes to characters -/

/-- The first bytes of longer characters, and what each asks for. -/
lemma lead_cases (h : lead b = some o) :
    (0xC2 ≤ b.toNat ∧ b.toNat < 0xE0 ∧ o = ⟨1, 0x80, 0xBF, 0⟩) ∨
    (∃ n < 0x10, b.toNat = n + 0xE0 ∧
      o = ⟨1, if n = 0 then 0xA0 else 0x80, if n = 0xD then 0x9F else 0xBF, 1⟩) ∨
    (∃ n < 5, b.toNat = n + 0xF0 ∧
      o = ⟨1, if n = 0 then 0x90 else 0x80, if n = 4 then 0x8F else 0xBF, 2⟩) := by
  obtain ⟨n, hn⟩ : ∃ n, b.toNat = n := ⟨_, rfl⟩
  have hb : b = UInt8.ofNat n := by rw [← hn, UInt8.ofNat_toNat]
  have hsize : n < 0x100 := hn ▸ b.toNat_lt
  rw [hn]
  by_cases htwo : 0xC2 ≤ n ∧ n < 0xE0
  · refine .inl ⟨htwo.1, htwo.2, ?_⟩
    rw [hb, lead_two htwo.1 htwo.2] at h
    exact (Option.some.inj h).symm
  by_cases hthree : 0xE0 ≤ n ∧ n < 0xF0
  · obtain ⟨k, rfl⟩ : ∃ k, n = k + 0xE0 := ⟨n - 0xE0, by omega⟩
    refine .inr (.inl ⟨k, by omega, rfl, ?_⟩)
    rw [hb, lead_three (by omega)] at h
    exact (Option.some.inj h).symm
  by_cases hfour : 0xF0 ≤ n ∧ n < 0xF5
  · obtain ⟨k, rfl⟩ : ∃ k, n = k + 0xF0 := ⟨n - 0xF0, by omega⟩
    refine .inr (.inr ⟨k, by omega, rfl, ?_⟩)
    rw [hb, lead_four (by omega)] at h
    exact (Option.some.inj h).symm
  · exfalso
    simp only [lead, Bool.and_eq_true, decide_eq_true_eq, UInt8.le_iff_toNat_le,
      ← UInt8.toNat_inj, hn, UInt8.reduceToNat] at h
    split_ifs at h <;> omega

/-- A byte is asked for, and there is one in the range. -/
lemma of_scan_open {bytes : List UInt8} (h : scan index (some o) bytes = none) :
    ∃ b rest, bytes = b :: rest ∧ o.low.toNat ≤ b.toNat ∧ b.toNat ≤ o.high.toNat ∧
      scan (index + 1) (if o.after = 0 then none else some ⟨o.seen + 1, 0x80, 0xBF, o.after - 1⟩)
        rest = none := by
  cases bytes with
  | nil => cases h
  | cons b rest =>
    rw [scan] at h
    split at h
    case isTrue hrange =>
      simp only [Bool.and_eq_true, decide_eq_true_eq, UInt8.le_iff_toNat_le] at hrange
      refine ⟨b, rest, rfl, hrange.1, hrange.2, ?_⟩
      split at h
      case isTrue hafter => rwa [if_pos hafter]
      case isFalse hafter => rwa [if_neg hafter]
    case isFalse => cases h

/-! Each sequence of bytes of the right ranges is that of a character. -/

lemma exists_char {v : Nat} (hvalid : v < 0xD800 ∨ 0xDFFF < v ∧ v < 0x110000) :
    ∃ c : Char, c.val.toNat = v :=
  ⟨.ofNatAux v hvalid, rfl⟩

lemma eq_ofNat {b : UInt8} {n : Nat} (h : b.toNat = n) : b = UInt8.ofNat n := by
  rw [← h, UInt8.ofNat_toNat]

/-- A byte that may follow the first bytes of a character, whatever they are. -/
def IsTail (b : UInt8) : Prop := 0x80 ≤ b.toNat ∧ b.toNat ≤ 0xBF

lemma exists_char_one {b : UInt8} (hb : b.toNat < 0x80) :
    ∃ c : Char, String.utf8EncodeChar c = [b] := by
  obtain ⟨c, hc⟩ := exists_char (v := b.toNat) (.inl (by omega))
  refine ⟨c, ?_⟩
  simp only [String.utf8EncodeChar, hc]
  rw [if_pos (by omega), UInt8.ofNat_toNat]

lemma exists_char_two {b b₁ : UInt8} (hlow : 0xC2 ≤ b.toNat) (hhigh : b.toNat < 0xE0)
    (h₁ : IsTail b₁) : ∃ c : Char, String.utf8EncodeChar c = [b, b₁] := by
  obtain ⟨hlow₁, hhigh₁⟩ := h₁
  obtain ⟨v, hv⟩ : ∃ v, v = (b.toNat - 192) * 64 + (b₁.toNat - 128) := ⟨_, rfl⟩
  obtain ⟨c, hc⟩ := exists_char (v := v) (.inl (by omega))
  have hb : b = UInt8.ofNat (v / 64 % 32 + 192) := eq_ofNat (by omega)
  have hb₁ : b₁ = UInt8.ofNat (v % 64 + 128) := eq_ofNat (by omega)
  refine ⟨c, ?_⟩
  simp only [String.utf8EncodeChar, hc]
  rw [if_neg (by omega), if_pos (by omega), ← hb, ← hb₁]

lemma exists_char_three {b b₁ b₂ : UInt8} {n : Nat} (hn : n < 0x10) (hb : b.toNat = n + 0xE0)
    (hlow₁ : (if n = 0 then 0xA0 else 0x80) ≤ b₁.toNat)
    (hhigh₁ : b₁.toNat ≤ if n = 0xD then 0x9F else 0xBF) (h₂ : IsTail b₂) :
    ∃ c : Char, String.utf8EncodeChar c = [b, b₁, b₂] := by
  obtain ⟨hlow₂, hhigh₂⟩ := h₂
  obtain ⟨v, hv⟩ : ∃ v, v = n * 4096 + (b₁.toNat - 128) * 64 + (b₂.toNat - 128) := ⟨_, rfl⟩
  have hrange : 0x800 ≤ v ∧ v < 0x10000 ∧ (v < 0xD800 ∨ 0xDFFF < v) := by
    split at hlow₁ <;> split at hhigh₁ <;> omega
  have htail : 0x80 ≤ b₁.toNat ∧ b₁.toNat ≤ 0xBF := by
    split at hlow₁ <;> split at hhigh₁ <;> omega
  obtain ⟨c, hc⟩ := exists_char (v := v) (by omega)
  have hb : b = UInt8.ofNat (v / 4096 % 16 + 224) := eq_ofNat (by omega)
  have hb₁ : b₁ = UInt8.ofNat (v / 64 % 64 + 128) := eq_ofNat (by omega)
  have hb₂ : b₂ = UInt8.ofNat (v % 64 + 128) := eq_ofNat (by omega)
  refine ⟨c, ?_⟩
  simp only [String.utf8EncodeChar, hc]
  rw [if_neg (by omega), if_neg (by omega), if_pos (by omega), ← hb, ← hb₁, ← hb₂]

lemma exists_char_four {b b₁ b₂ b₃ : UInt8} {n : Nat} (hn : n < 5) (hb : b.toNat = n + 0xF0)
    (hlow₁ : (if n = 0 then 0x90 else 0x80) ≤ b₁.toNat)
    (hhigh₁ : b₁.toNat ≤ if n = 4 then 0x8F else 0xBF) (h₂ : IsTail b₂) (h₃ : IsTail b₃) :
    ∃ c : Char, String.utf8EncodeChar c = [b, b₁, b₂, b₃] := by
  obtain ⟨hlow₂, hhigh₂⟩ := h₂
  obtain ⟨hlow₃, hhigh₃⟩ := h₃
  obtain ⟨v, hv⟩ : ∃ v, v = n * 262144 + (b₁.toNat - 128) * 4096 + (b₂.toNat - 128) * 64 +
    (b₃.toNat - 128) := ⟨_, rfl⟩
  have hrange : 0x10000 ≤ v ∧ v < 0x110000 := by
    split at hlow₁ <;> split at hhigh₁ <;> omega
  have htail : 0x80 ≤ b₁.toNat ∧ b₁.toNat ≤ 0xBF := by
    split at hlow₁ <;> split at hhigh₁ <;> omega
  obtain ⟨c, hc⟩ := exists_char (v := v) (by omega)
  have hb : b = UInt8.ofNat (v / 262144 % 8 + 240) := eq_ofNat (by omega)
  have hb₁ : b₁ = UInt8.ofNat (v / 4096 % 64 + 128) := eq_ofNat (by omega)
  have hb₂ : b₂ = UInt8.ofNat (v / 64 % 64 + 128) := eq_ofNat (by omega)
  have hb₃ : b₃ = UInt8.ofNat (v % 64 + 128) := eq_ofNat (by omega)
  refine ⟨c, ?_⟩
  simp only [String.utf8EncodeChar, hc]
  rw [if_neg (by omega), if_neg (by omega), if_neg (by omega), ← hb, ← hb₁, ← hb₂, ← hb₃]

/-- Bytes that are scanned without a fault begin with a character, and go on without a fault. -/
lemma of_scan_cons (h : scan index none (b :: rest) = none) :
    ∃ (c : Char) (more : List UInt8) (next : Nat),
      b :: rest = String.utf8EncodeChar c ++ more ∧ more.length ≤ rest.length ∧
      scan next none more = none := by
  rw [scan] at h
  split at h
  case isTrue hone =>
    obtain ⟨c, hc⟩ := exists_char_one (b := b) hone
    exact ⟨c, rest, index + 1, by rw [hc]; rfl, Nat.le_refl _, h⟩
  case isFalse =>
    split at h
    case h_1 => cases h
    case h_2 o hlead =>
      rcases lead_cases hlead with ⟨hlow, hhigh, rfl⟩ | ⟨n, hn, hb, rfl⟩ | ⟨n, hn, hb, rfl⟩
      · obtain ⟨b₁, more, rfl, hlow₁, hhigh₁, h⟩ := of_scan_open h
        obtain ⟨c, hc⟩ := exists_char_two hlow hhigh ⟨hlow₁, hhigh₁⟩
        exact ⟨c, more, _, by rw [hc]; rfl, by simp, h⟩
      · obtain ⟨b₁, rest₁, rfl, hlow₁, hhigh₁, h⟩ := of_scan_open h
        obtain ⟨b₂, more, rfl, hlow₂, hhigh₂, h⟩ := of_scan_open h
        simp only [apply_ite UInt8.toNat, UInt8.reduceToNat] at hlow₁ hhigh₁
        obtain ⟨c, hc⟩ := exists_char_three hn hb hlow₁ hhigh₁ ⟨hlow₂, hhigh₂⟩
        refine ⟨c, more, _, by rw [hc]; rfl, ?_, h⟩
        simp only [List.length_cons]
        omega
      · obtain ⟨b₁, rest₁, rfl, hlow₁, hhigh₁, h⟩ := of_scan_open h
        obtain ⟨b₂, rest₂, rfl, hlow₂, hhigh₂, h⟩ := of_scan_open h
        obtain ⟨b₃, more, rfl, hlow₃, hhigh₃, h⟩ := of_scan_open h
        simp only [apply_ite UInt8.toNat, UInt8.reduceToNat] at hlow₁ hhigh₁
        obtain ⟨c, hc⟩ := exists_char_four hn hb hlow₁ hhigh₁ ⟨hlow₂, hhigh₂⟩ ⟨hlow₃, hhigh₃⟩
        refine ⟨c, more, _, by rw [hc]; rfl, ?_, h⟩
        simp only [List.length_cons]
        omega

/-- Bytes that are scanned without a fault are those of characters. -/
lemma chars_of_scan {bytes : List UInt8} (h : scan index none bytes = none) :
    ∃ cs : List Char, bytes = cs.flatMap String.utf8EncodeChar := by
  induction hlength : bytes.length using Nat.strongRecOn generalizing bytes index with
  | ind length ih =>
    cases bytes with
    | nil => exact ⟨[], rfl⟩
    | cons b rest =>
      obtain ⟨c, more, next, hchar, hshort, hmore⟩ := of_scan_cons h
      rw [List.length_cons] at hlength
      obtain ⟨cs, hcs⟩ := ih more.length (by omega) hmore rfl
      refine ⟨c :: cs, ?_⟩
      rw [List.flatMap_cons, ← hcs, hchar]

end Text.Utf8

namespace Json

lemma utf8_ofList (cs : List Char) :
    utf8 (String.ofList cs) = cs.flatMap String.utf8EncodeChar := by
  simp [utf8, String.toUTF8, List.utf8Encode]

theorem fault?_utf8 (s : String) : Text.Utf8.fault? (utf8 s) = none := by
  rw [← String.ofList_toList (s := s), utf8_ofList]
  exact Text.Utf8.scan_chars _ 0

/-- Bytes without a fault are those of a text. -/
theorem fault?_eq_none_iff {bytes : List UInt8} :
    Text.Utf8.fault? bytes = none ↔ ∃ cs : List Char, bytes = utf8 (String.ofList cs) := by
  constructor
  · intro h
    obtain ⟨cs, hcs⟩ := Text.Utf8.chars_of_scan h
    exact ⟨cs, by rw [hcs, utf8_ofList]⟩
  · rintro ⟨cs, rfl⟩
    exact fault?_utf8 _

theorem fromUTF8?_utf8 (s : String) : String.fromUTF8? ⟨(utf8 s).toArray⟩ = some s := by
  have hbytes : (⟨(utf8 s).toArray⟩ : ByteArray) = s.toByteArray := rfl
  rw [hbytes, String.fromUTF8?, dif_pos s.isValidUTF8]
  rfl

lemma ascii_append (cs ds : List Char) : ascii (cs ++ ds) = ascii cs ++ ascii ds := by
  simp [ascii]

/-- ASCII text is its own UTF-8. -/
lemma ascii_eq_utf8 {cs : List Char} (h : ∀ c ∈ cs, c.toNat < 0x80) :
    ascii cs = utf8 (String.ofList cs) := by
  rw [utf8_ofList]
  induction cs with
  | nil => rfl
  | cons c cs ih =>
    have hc : c.val.toNat ≤ 127 := Nat.le_of_lt_succ (h c (List.mem_cons_self ..))
    have hchar : String.utf8EncodeChar c = [c.toNat.toUInt8] := by
      simp only [String.utf8EncodeChar]
      rw [if_pos hc]
      rfl
    have hrest := ih fun d hd => h d (List.mem_cons_of_mem _ hd)
    simp only [ascii, List.map_cons, List.flatMap_cons, hchar] at hrest ⊢
    rw [hrest]
    rfl

end Json

end LanguageClient
