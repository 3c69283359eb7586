import LanguageClient.Frame

/-!
# Frames from a buffer

A source hands out its bytes in pieces. A reader takes them into a buffer, and from there it takes
header lines one by one and then the body. What has come beyond a frame stays in the buffer for the
next read, also after a read that failed.
-/

namespace LanguageClient.Frame

/-- Bytes to come, in pieces of which none is empty. -/
structure Source where
  pieces : List (List UInt8)
  nonempty : [] ∉ pieces

namespace Source

def bytes (s : Source) : List UInt8 := s.pieces.flatten

/-- What comes next, at most `limit` bytes of it; nothing at the end. -/
def fetch (s : Source) (limit : Nat) : List UInt8 × Source :=
  match h : s.pieces with
  | [] => ([], s)
  | piece :: rest =>
    have hrest : [] ∉ rest := fun hmem => s.nonempty (h ▸ List.mem_cons_of_mem _ hmem)
    if hfits : piece.length ≤ limit then (piece, ⟨rest, hrest⟩)
    else (piece.take limit, ⟨piece.drop limit :: rest, by simp [hrest, Nat.lt_of_not_le hfits]⟩)

theorem fetch_bytes (s : Source) (limit : Nat) :
    (s.fetch limit).1 ++ (s.fetch limit).2.bytes = s.bytes := by
  unfold fetch bytes
  split
  case h_1 => rfl
  case h_2 piece rest h =>
    split
    case isTrue => simp [h]
    case isFalse => simp [h, ← List.append_assoc]

/-- Nothing comes only at the end. -/
theorem bytes_of_fetch {s : Source} {limit : Nat} (hlimit : 0 < limit)
    (h : (s.fetch limit).1 = []) : s.bytes = [] := by
  unfold fetch at h
  split at h
  case h_1 hnone => rw [bytes, hnone, List.flatten_nil]
  case h_2 piece rest hpieces =>
    have hpiece : piece ≠ [] := fun hnil => s.nonempty (hpieces ▸ hnil ▸ List.mem_cons_self ..)
    split at h
    case isTrue => exact absurd h hpiece
    case isFalse => simp [hpiece, Nat.ne_of_gt hlimit] at h

theorem length_fetch_le (s : Source) (limit : Nat) : (s.fetch limit).1.length ≤ limit := by
  unfold fetch
  split
  case h_1 => exact Nat.zero_le _
  case h_2 =>
    split
    case isTrue hfits => exact hfits
    case isFalse => exact List.length_take_le ..

end Source

/-- A reader: bytes that have come and were not taken, and those to come. -/
structure Buffered where
  held : List UInt8
  source : Source

namespace Buffered

/-- How many bytes the buffer holds. -/
def size : Nat := 8 * 1024

/-- All bytes that were not taken. -/
def unread (b : Buffered) : List UInt8 := b.held ++ b.source.bytes

/-- An empty buffer is filled with what comes next. -/
def fill (b : Buffered) : Buffered :=
  if b.held = [] then ⟨(b.source.fetch size).1, (b.source.fetch size).2⟩ else b

theorem unread_fill (b : Buffered) : b.fill.unread = b.unread := by
  unfold fill unread
  split
  case isTrue h => simp [h, Source.fetch_bytes]
  case isFalse => rfl

/-- A buffer that is filled is empty only at the end. -/
theorem unread_of_held_fill {b : Buffered} (h : b.fill.held = []) : b.unread = [] := by
  unfold fill at h
  split at h
  case isTrue hheld => simp [unread, hheld, Source.bytes_of_fetch (by decide) h]
  case isFalse hheld => exact absurd h hheld

/-! ### Lines -/

/-- Bytes up to their first line feed and with it, and the bytes after. -/
def splitLine : List UInt8 → Option (List UInt8 × List UInt8)
  | [] => none
  | b :: rest =>
    if b = 0x0A then some ([b], rest)
    else (splitLine rest).map fun (line, rest) => (b :: line, rest)

theorem splitLine_eq_none {bytes : List UInt8} (h : splitLine bytes = none) : 0x0A ∉ bytes := by
  induction bytes with
  | nil => exact List.not_mem_nil
  | cons b rest ih =>
    rw [splitLine] at h
    split at h
    case isTrue => cases h
    case isFalse hb =>
      rw [List.mem_cons, not_or]
      exact ⟨Ne.symm hb, ih (Option.map_eq_none_iff.mp h)⟩

theorem splitLine_eq_some {bytes line rest : List UInt8} (h : splitLine bytes = some (line, rest)) :
    bytes = line ++ rest ∧ ∃ text, line = text ++ [0x0A] ∧ 0x0A ∉ text := by
  induction bytes generalizing line with
  | nil => cases h
  | cons b bytes ih =>
    rw [splitLine] at h
    split at h
    case isTrue hb =>
      cases h
      exact ⟨rfl, [], by rw [hb, List.nil_append], List.not_mem_nil⟩
    case isFalse hb =>
      obtain ⟨⟨line, rest⟩, hsplit, heq⟩ := Option.map_eq_some_iff.mp h
      cases heq
      obtain ⟨rfl, text, rfl, htext⟩ := ih hsplit
      refine ⟨rfl, b :: text, rfl, ?_⟩
      rw [List.mem_cons, not_or]
      exact ⟨Ne.symm hb, htext⟩

/-- The bytes up to a line feed and with it, or all there are. -/
def readLine (b : Buffered) : List UInt8 × Buffered :=
  if _h : b.fill.held = [] then ([], b.fill)
  else
    match splitLine b.fill.held with
    | some (line, rest) => (line, ⟨rest, b.fill.source⟩)
    | none =>
      let (more, b') := readLine ⟨[], b.fill.source⟩
      (b.fill.held ++ more, b')
termination_by b.unread.length
decreasing_by
  rw [← unread_fill b]
  simp [unread, List.length_pos_iff, _h]

/-- A line is what the stream begins with up to its first line feed, or all of a stream without
one. -/
theorem readLine_spec (b : Buffered) :
    b.readLine.1 ++ b.readLine.2.unread = b.unread ∧
      ((∃ text, b.readLine.1 = text ++ [0x0A] ∧ 0x0A ∉ text) ∨
        0x0A ∉ b.readLine.1 ∧ b.readLine.2.unread = []) := by
  induction b using readLine.induct with
  | case1 b h =>
    have hend : b.fill.unread = [] := (unread_fill b).trans (unread_of_held_fill h)
    rw [readLine, dif_pos h, List.nil_append]
    exact ⟨unread_fill b, .inr ⟨List.not_mem_nil, hend⟩⟩
  | case2 b h line rest hsplit =>
    obtain ⟨hheld, htext⟩ := splitLine_eq_some hsplit
    rw [readLine, dif_neg h, hsplit, ← unread_fill b]
    refine ⟨?_, .inl htext⟩
    simp only [unread, hheld, List.append_assoc]
  | case3 b h hsplit more b' hmore ih =>
    obtain ⟨hbytes, hline⟩ := ih
    have hbefore : b.unread = b.fill.held ++ b.fill.source.bytes := (unread_fill b).symm
    rw [readLine, dif_neg h, hsplit, hbefore]
    simp only [unread, List.nil_append] at hbytes hline ⊢
    refine ⟨by rw [List.append_assoc, hbytes], ?_⟩
    rcases hline with ⟨text, hline, htext⟩ | ⟨hline, hend⟩
    · refine .inl ⟨b.fill.held ++ text, by rw [hline, List.append_assoc], ?_⟩
      rw [List.mem_append, not_or]
      exact ⟨splitLine_eq_none hsplit, htext⟩
    · refine .inr ⟨?_, hend⟩
      rw [List.mem_append, not_or]
      exact ⟨splitLine_eq_none hsplit, hline⟩

/-! ### Bodies -/

/-- At most `n` bytes, as they come. They go past a buffer that is empty and too small for them. -/
def take (b : Buffered) (n : Nat) : List UInt8 × Buffered :=
  if b.held = [] ∧ size ≤ n then ((b.source.fetch n).1, ⟨[], (b.source.fetch n).2⟩)
  else (b.fill.held.take n, ⟨b.fill.held.drop n, b.fill.source⟩)

/-- What is taken is what the stream begins with, and nothing only at the end. -/
theorem take_spec (b : Buffered) {n : Nat} (hn : 0 < n) :
    (b.take n).1 ++ (b.take n).2.unread = b.unread ∧ (b.take n).1.length ≤ n ∧
      ((b.take n).1 = [] → b.unread = []) := by
  unfold take
  split
  case isTrue h =>
    refine ⟨?_, Source.length_fetch_le .., fun hnone => ?_⟩
    · simp [unread, h.1, Source.fetch_bytes]
    · simp [unread, h.1, Source.bytes_of_fetch hn hnone]
  case isFalse =>
    refine ⟨?_, List.length_take_le .., fun hnone => unread_of_held_fill ?_⟩
    · rw [← unread_fill b]
      simp [unread, ← List.append_assoc]
    · simpa [Nat.ne_of_gt hn] using hnone

/-- Just `n` bytes; nothing if they do not all come. -/
def readExact (b : Buffered) (n : Nat) : Option (List UInt8) × Buffered :=
  if n = 0 then (some [], b)
  else if _h : (b.take n).1 = [] then (none, (b.take n).2)
  else
    let (more, b') := readExact (b.take n).2 (n - (b.take n).1.length)
    (more.map ((b.take n).1 ++ ·), b')
termination_by n
decreasing_by
  have hlength := List.length_pos_iff.mpr _h
  omega

/-- The bytes are what the stream begins with; a stream that is too short is taken to its end. -/
theorem readExact_spec (b : Buffered) (n : Nat) :
    (n ≤ b.unread.length ∧ (b.readExact n).1 = some (b.unread.take n) ∧
        (b.readExact n).2.unread = b.unread.drop n) ∨
      (b.unread.length < n ∧ (b.readExact n).1 = none ∧ (b.readExact n).2.unread = []) := by
  induction b, n using readExact.induct with
  | case1 b =>
    left
    rw [readExact, if_pos rfl]
    exact ⟨Nat.zero_le _, rfl, rfl⟩
  | case2 b n hn h =>
    right
    obtain ⟨hbytes, -, hend⟩ := b.take_spec (Nat.pos_of_ne_zero hn)
    rw [readExact, if_neg hn, dif_pos h, hend h]
    refine ⟨Nat.pos_of_ne_zero hn, rfl, ?_⟩
    rw [h, hend h] at hbytes
    exact hbytes
  | case3 b n hn h more b' hmore ih =>
    obtain ⟨hbytes, hlength, -⟩ := b.take_spec (Nat.pos_of_ne_zero hn)
    rw [readExact, if_neg hn, dif_neg h, ← hbytes, List.length_append]
    rcases ih with ⟨hle, htaken, hrest⟩ | ⟨hlt, hnone, hrest⟩
    · refine .inl ⟨by omega, ?_, ?_⟩
      · simp [htaken, List.take_append, List.take_of_length_le hlength]
      · simp [hrest, List.drop_append, List.drop_of_length_le hlength]
    · refine .inr ⟨by omega, ?_, hrest⟩
      simp [hnone]

/-! ### Messages -/

/-- A body of just `n` bytes. -/
def readClose (b : Buffered) (n : Nat) : Read × Buffered :=
  match b.readExact n with
  | (some body, b) => (Decoder.close body, b)
  | (none, b) => (.fault .endInBody, b)

/-- The header has ended, and gave a length or none. -/
def readBody (b : Buffered) : Option Nat → Read × Buffered
  | none => (.fault .noLength, b)
  | some n => if maxBody < n then (.fault (.tooLong n), b) else b.readClose n

/-- One read, when the header lines before have given a length or not, or there were none. -/
def readHeader (b : Buffered) (length : Option Nat) (first : Bool) : Read × Buffered :=
  if _h : b.readLine.1 = [] then (if first then .ended else .fault .endInHeader, b.readLine.2)
  else
    match Text.Utf8.fault? b.readLine.1 with
    | some f => (.fault (.notText f), b.readLine.2)
    | none =>
      match Text.dropEnd (fun c => c = '\r' || c = '\n')
          ((String.fromUTF8? ⟨b.readLine.1.toArray⟩).getD "").toList with
      | [] => b.readLine.2.readBody length
      | content =>
        match lineLength content with
        | .error f => (.fault f, b.readLine.2)
        | .ok found => readHeader b.readLine.2 (found <|> length) false
termination_by b.unread.length
decreasing_by
  rw [← (readLine_spec b).1, List.length_append]
  have hlength := List.length_pos_iff.mpr _h
  omega

/-- One read, and the reader after it. -/
def read (b : Buffered) : Read × Buffered := b.readHeader none true

/-- As many reads as asked for, whatever they give. -/
def readMany : Nat → Buffered → List Read
  | 0, _ => []
  | n + 1, b => b.read.1 :: readMany n b.read.2

/-- A reader that has taken nothing yet. -/
def fresh (s : Source) : Buffered := ⟨[], s⟩

end Buffered

end LanguageClient.Frame
