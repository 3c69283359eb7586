import LanguageClient.Proofs.Text.Utf8
import LanguageClient.Uri.Percent

/-!
# Percent encoding reads back

What has been percent-encoded reads back as the bytes that it was made of, as long as percent signs
and bytes past ASCII are encoded: `decode_encode`. It is made of characters that mean nothing else
in a path, and stays as it is when it is encoded once more as part of one.
-/

namespace LanguageClient.Uri

variable {banned : UInt8 → Bool} {b : UInt8} {c : Char} {n : Nat}

/-! ### Bytes and characters -/

lemma toNat_ofByte (b : UInt8) : (Char.ofNat b.toNat).toNat = b.toNat := by
  have hvalid : b.toNat.isValidChar := .inl (Nat.lt_trans b.toNat_lt (by decide))
  rw [Char.ofNat, dif_pos hvalid]
  rfl

lemma ofByte_eq_iff : Char.ofNat b.toNat = c ↔ b.toNat = c.toNat := by
  constructor
  · rintro rfl
    exact (toNat_ofByte b).symm
  · intro h
    rw [h, Char.ofNat_toNat]

lemma bytesOf_append (cs ds : List Char) : bytesOf (cs ++ ds) = bytesOf cs ++ bytesOf ds := by
  simp only [bytesOf, Json.utf8_ofList, List.flatMap_append]

lemma bytesOf_cons (c : Char) (cs : List Char) : bytesOf (c :: cs) = bytesOf [c] ++ bytesOf cs :=
  bytesOf_append [c] cs

lemma bytesOf_ofByte (h : b < 0x80) : bytesOf [Char.ofNat b.toNat] = [b] := by
  have hascii : ∀ c ∈ [Char.ofNat b.toNat], c.toNat < 0x80 := by
    simpa [toNat_ofByte] using UInt8.lt_iff_toNat_lt.mp h
  rw [bytesOf, ← Json.ascii_eq_utf8 hascii]
  simp [Json.ascii, toNat_ofByte]

lemma bytesOf_injective : Function.Injective bytesOf := by
  intro cs ds h
  have hsame : some (String.ofList cs) = some (String.ofList ds) := by
    rw [← Json.fromUTF8?_utf8, ← Json.fromUTF8?_utf8]
    exact congrArg (fun bytes => String.fromUTF8? ⟨bytes.toArray⟩) h
  exact String.ofList_injective (Option.some.inj hsame)

/-! ### Reading back -/

/-- Percent signs are encoded, and so are bytes past ASCII. -/
structure Covers (banned : UInt8 → Bool) : Prop where
  percent : banned 0x25 = true
  past : ∀ b, banned b = false → b < 0x80

/-- What stands for itself in a path is seen. -/
lemma range_of_pathSet (h : pathSet b = false) : 0x20 < b.toNat ∧ b.toNat < 0x7F := by
  simp only [pathSet, fragmentSet, isControl, Bool.or_eq_false_iff, decide_eq_false_iff_not,
    UInt8.lt_iff_toNat_lt, UInt8.le_iff_toNat_le, ← UInt8.toNat_inj, UInt8.reduceToNat] at h
  omega

lemma segmentSet_eq_false_iff :
    segmentSet b = false ↔ pathSet b = false ∧ b ≠ 0x2F ∧ b ≠ 0x25 ∧ b ≠ 0x5C := by
  simp only [segmentSet, Bool.or_eq_false_iff, decide_eq_false_iff_not, and_assoc, ne_eq]

lemma covers_segmentSet : Covers segmentSet where
  percent := rfl
  past b h := by
    have hrange := range_of_pathSet (segmentSet_eq_false_iff.mp h).1
    exact UInt8.lt_iff_toNat_lt.mpr (Nat.lt_trans hrange.2 (by decide))

lemma hexValue_upperHex (h : n < 16) : Text.hexValue (upperHex n) = some n := by
  decide +revert

lemma decode_cons (h : c ≠ '%') (rest : List Char) :
    decode (c :: rest) = bytesOf [c] ++ decode rest := by
  rw [decode]
  rintro a b rest rfl
  exact absurd rfl h

/-- A byte reads back, whatever comes after it. -/
lemma decode_encodeByte (h : Covers banned) (b : UInt8) (rest : List Char) :
    decode (encodeByte banned b ++ rest) = b :: decode rest := by
  unfold encodeByte
  have hb : b.toNat < 256 := b.toNat_lt
  split
  case isTrue =>
    have hhigh := hexValue_upperHex (n := b.toNat / 16) (by omega)
    have hlow := hexValue_upperHex (n := b.toNat % 16) (by omega)
    have hvalue : b.toNat / 16 * 16 + b.toNat % 16 = b.toNat := by omega
    simp [decode, hhigh, hlow, hvalue]
  case isFalse hkept =>
    have hpercent : Char.ofNat b.toNat ≠ '%' := by
      intro heq
      obtain rfl : b = 0x25 := UInt8.toNat_inj.mp (ofByte_eq_iff.mp heq)
      exact hkept h.percent
    rw [List.singleton_append, decode_cons hpercent,
      bytesOf_ofByte (h.past b (by simpa using hkept))]
    rfl

/-- What has been encoded reads back. -/
theorem decode_encode (h : Covers banned) (bytes : List UInt8) :
    decode (encode banned bytes) = bytes := by
  induction bytes with
  | nil => rw [encode, List.flatMap_nil, decode]
  | cons b bytes ih =>
    rw [encode, List.flatMap_cons, decode_encodeByte h]
    exact congrArg (b :: ·) ih

/-! ### Characters of a segment -/

/-- A character that means nothing else in the path of a URI. -/
def IsSegmentChar (c : Char) : Prop :=
  ∃ b : UInt8, c = Char.ofNat b.toNat ∧ pathSet b = false ∧ b ≠ 0x2F ∧ b ≠ 0x5C

lemma isSegmentChar_upperHex (h : n < 16) : IsSegmentChar (upperHex n) := by
  have hdigit : upperHex n = Char.ofNat (if n < 10 then 48 + n else 55 + n).toUInt8.toNat ∧
      pathSet (if n < 10 then 48 + n else 55 + n).toUInt8 = false ∧
      (if n < 10 then 48 + n else 55 + n).toUInt8 ≠ 0x2F ∧
      (if n < 10 then 48 + n else 55 + n).toUInt8 ≠ 0x5C := by
    decide +revert
  exact ⟨_, hdigit⟩

/-- A segment is made of such characters. -/
lemma isSegmentChar_of_mem_encode {bytes : List UInt8} (h : c ∈ encode segmentSet bytes) :
    IsSegmentChar c := by
  obtain ⟨b, -, hc⟩ := List.mem_flatMap.mp h
  have hb : b.toNat < 256 := b.toNat_lt
  unfold encodeByte at hc
  split at hc
  case isTrue =>
    simp only [List.mem_cons, List.not_mem_nil, or_false] at hc
    rcases hc with rfl | rfl | rfl
    · exact ⟨0x25, rfl, rfl, by decide, by decide⟩
    · exact isSegmentChar_upperHex (by omega)
    · exact isSegmentChar_upperHex (by omega)
  case isFalse hkept =>
    obtain rfl := List.mem_singleton.mp hc
    obtain ⟨hpath, hslash, -, hback⟩ := segmentSet_eq_false_iff.mp (by simpa using hkept)
    exact ⟨b, rfl, hpath, hslash, hback⟩

namespace IsSegmentChar

lemma range (h : IsSegmentChar c) : 0x20 < c.toNat ∧ c.toNat < 0x7F := by
  obtain ⟨b, rfl, hpath, -⟩ := h
  rw [toNat_ofByte]
  exact range_of_pathSet hpath

/-- It is no byte that would be encoded, and no slash of either kind. -/
lemma ne_ofByte (h : IsSegmentChar c) {d : UInt8}
    (hd : pathSet d = true ∨ d = 0x2F ∨ d = 0x5C) : c ≠ Char.ofNat d.toNat := by
  obtain ⟨b, rfl, hpath, hslash, hback⟩ := h
  intro heq
  obtain rfl : b = d := by
    rw [ofByte_eq_iff, toNat_ofByte] at heq
    exact UInt8.toNat_inj.mp heq
  rcases hd with hd | rfl | rfl
  · simp [hpath] at hd
  · exact hslash rfl
  · exact hback rfl

/-- It stays as it is when it is encoded as a part of a path. -/
lemma encode_eq (h : IsSegmentChar c) : encode pathSet (bytesOf [c]) = [c] := by
  obtain ⟨b, rfl, hpath, -⟩ := h
  have hascii : b < 0x80 :=
    UInt8.lt_iff_toNat_lt.mpr (Nat.lt_trans (range_of_pathSet hpath).2 (by decide))
  rw [bytesOf_ofByte hascii]
  simp [encode, encodeByte, hpath]

end IsSegmentChar

lemma encode_of_isSegmentChar {cs : List Char} (h : ∀ c ∈ cs, IsSegmentChar c) :
    encode pathSet (bytesOf cs) = cs := by
  induction cs with
  | nil => rfl
  | cons c cs ih =>
    obtain ⟨hc, hcs⟩ := List.forall_mem_cons.mp h
    have hsplit : encode pathSet (bytesOf [c] ++ bytesOf cs) =
        encode pathSet (bytesOf [c]) ++ encode pathSet (bytesOf cs) := List.flatMap_append
    rw [bytesOf_cons, hsplit, hc.encode_eq, ih hcs]
    rfl

end LanguageClient.Uri
