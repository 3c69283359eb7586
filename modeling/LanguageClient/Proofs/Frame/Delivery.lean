import LanguageClient.Frame.Buffered
import LanguageClient.Proofs.Frame.Grammar

/-!
# How bytes are delivered

What a reader with a buffer gives, and what it leaves unread, depends on the bytes that come and not
on the pieces that they come in. It is what the decoder gives that takes the bytes one by one:
`Buffered.readMany_of_bytes`.
-/

namespace LanguageClient

namespace Frame

open Decoder

/-! ### Lines and bodies in one piece -/

section Pieces

variable {read bytes more : List UInt8} {length : Option Nat} {d : Decoder} {n : Nat}

/-- The end of a line that gives nothing leads to the next line or to a body. -/
lemma line_or_body (h : endLine read length = (d, none)) :
    (∃ found, d = .line [] found false) ∨ ∃ n, d = .body [] n := by
  simp only [endLine, beginBody] at h
  grind

/-- A line is taken in one piece, also one that the stream breaks off in. -/
lemma next_line (hline : (∃ text, bytes = text ++ [0x0A] ∧ 0x0A ∉ text) ∨ 0x0A ∉ bytes ∧ more = [])
    (hsome : bytes ≠ []) (length : Option Nat) (first : Bool) :
    (Decoder.line [] length first).next (bytes ++ more) =
      match endLine bytes.reverse length with
      | (_, some r) => (r, more)
      | (d, none) => d.next more := by
  rcases hline with ⟨text, rfl, htext⟩ | ⟨hfeed, rfl⟩
  · have hreverse : (text ++ [0x0A]).reverse = 0x0A :: text.reverse := List.reverse_concat ..
    rw [next, List.append_assoc, List.singleton_append, feed_wholeLine htext, hreverse]
    rcases endLine (0x0A :: text.reverse) length with ⟨d, _ | r⟩ <;> rfl
  · have hread : bytes.reverse ≠ [] := List.reverse_ne_nil_iff.mpr hsome
    rw [next, feed_line hfeed, List.append_nil]
    generalize bytes.reverse = read at hread
    cases read with
    | nil => exact absurd rfl hread
    | cons b read =>
      change ((Decoder.line (b :: read) length first).finish, []) = _
      rw [finish]
      · rcases hend : endLine (b :: read) length with ⟨d, _ | r⟩
        · rcases line_or_body hend with ⟨found, rfl⟩ | ⟨n, rfl⟩ <;> rfl
        · rfl
      · intro hread
        cases hread
      · intro hread
        cases hread

/-- A body is taken in one piece, or the stream breaks off in it. -/
lemma next_body (hpos : 0 < n) (more : List UInt8) :
    (Decoder.body [] n).next more =
      if n ≤ more.length then (close (more.take n), more.drop n) else (.fault .endInBody, []) := by
  by_cases hlength : n ≤ more.length
  · have hbody : (more.take n).length = n := List.length_take_of_le hlength
    have hfeed := feed_body hbody hpos [] (more.drop n)
    rw [List.take_append_drop] at hfeed
    rw [if_pos hlength, next, hfeed]
    rfl
  · rw [if_neg hlength]
    exact next_body_of_lt (Nat.lt_of_not_le hlength)

/-- What the end of a line comes to whose bytes stand in reverse. -/
lemma endLine_of_reverse (h : read.reverse = bytes) (length : Option Nat) :
    endLine read length =
      match Text.Utf8.fault? bytes with
      | some f => (start, some (.fault (.notText f)))
      | none =>
        match Text.dropEnd (fun c => c = '\r' || c = '\n')
            ((String.fromUTF8? ⟨bytes.toArray⟩).getD "").toList with
        | [] => beginBody length
        | content =>
          match lineLength content with
          | .error f => (start, some (.fault f))
          | .ok found => (.line [] (found <|> length) false, none) := by
  subst h
  rfl

end Pieces

/-! ### Reads from a buffer -/

namespace Buffered

variable {s t : Source}

/-- A body is taken if it is there, and what there is of it if not. -/
lemma readClose_eq (b : Buffered) (n : Nat) :
    (b.readClose n).map id unread =
      if n ≤ b.unread.length then (close (b.unread.take n), b.unread.drop n)
      else (.fault .endInBody, []) := by
  have hspec := b.readExact_spec n
  rw [readClose]
  rcases hread : b.readExact n with ⟨taken, b'⟩
  rw [hread] at hspec
  rcases hspec with ⟨hlength, rfl, hrest⟩ | ⟨hlength, rfl, hrest⟩
  · rw [if_pos hlength, ← hrest]
    rfl
  · rw [if_neg (Nat.not_le_of_lt hlength), ← hrest]
    rfl

/-- After a header the reader takes the body that the decoder takes. -/
lemma readBody_eq (b : Buffered) (length : Option Nat) :
    (b.readBody length).map id unread =
      match beginBody length with
      | (_, some r) => (r, b.unread)
      | (d, none) => d.next b.unread := by
  cases length with
  | none => rfl
  | some n =>
    rw [readBody, beginBody]
    by_cases hlong : maxBody < n
    · rw [if_pos hlong, if_pos hlong]
      rfl
    rw [if_neg hlong, if_neg hlong, readClose_eq]
    by_cases hempty : n = 0
    · subst hempty
      rfl
    · rw [if_neg hempty]
      exact (next_body (Nat.pos_of_ne_zero hempty) b.unread).symm

/-- Whatever a read has come to, the reader goes on as the decoder does. -/
lemma readHeader_eq (b : Buffered) (length : Option Nat) (first : Bool) :
    (b.readHeader length first).map id unread =
      (Decoder.line [] length first).next b.unread := by
  induction b, length, first using readHeader.induct with
  | case1 b length first h =>
    obtain ⟨hbytes, hline⟩ := b.readLine_spec
    have hend : b.readLine.2.unread = [] := by
      rcases hline with ⟨text, htext, -⟩ | ⟨-, hend⟩
      · simp [h] at htext
      · exact hend
    rw [readHeader, dif_pos h, ← hbytes, h, hend]
    cases first <;> exact Prod.ext rfl hend
  | case2 b length first h f hfault =>
    obtain ⟨hbytes, hline⟩ := b.readLine_spec
    rw [readHeader, dif_neg h, ← hbytes, next_line hline h,
      endLine_of_reverse (List.reverse_reverse _), hfault]
    rfl
  | case3 b length first h hfault hcontent =>
    obtain ⟨hbytes, hline⟩ := b.readLine_spec
    rw [readHeader, dif_neg h, ← hbytes, next_line hline h,
      endLine_of_reverse (List.reverse_reverse _), hfault]
    simp only [hcontent]
    exact readBody_eq _ _
  | case4 b length first h hfault f hcontent hlength =>
    obtain ⟨hbytes, hline⟩ := b.readLine_spec
    rw [readHeader, dif_neg h, ← hbytes, next_line hline h,
      endLine_of_reverse (List.reverse_reverse _), hfault]
    simp only [hlength]
    rfl
  | case5 b length first h hfault found hcontent hlength ih =>
    obtain ⟨hbytes, hline⟩ := b.readLine_spec
    rw [readHeader, dif_neg h, ← hbytes, next_line hline h,
      endLine_of_reverse (List.reverse_reverse _), hfault]
    simp only [hlength]
    exact ih

/-- A reader gives what a read of its bytes gives, and leaves what that leaves. -/
lemma read_eq (b : Buffered) : b.read.map id unread = Frame.read b.unread :=
  b.readHeader_eq none true

lemma readMany_eq (b : Buffered) (n : Nat) : readMany n b = Frame.readMany n b.unread := by
  induction n generalizing b with
  | zero => rfl
  | succ n ih =>
    rw [readMany, ih, Frame.readMany, ← read_eq]
    rfl

/-- A reader that has taken nothing yet gives what the decoder gives for the same pieces. -/
lemma readMany_fresh (s : Source) (n : Nat) :
    readMany n (fresh s) = (⟨.start, s.pieces⟩ : Chunked).readMany n := by
  rw [readMany_eq, Chunked.readMany_eq]
  rfl

/--
Two sources that hand out the same bytes, in whatever pieces, are read alike, as often as one likes
and also after reads that fail: each read gives the same message, the same end or the same fault.
This holds of the reader with a buffer and of the decoder, and they agree.
-/
theorem readMany_of_bytes (h : s.bytes = t.bytes) (n : Nat) :
    readMany n (fresh s) = readMany n (fresh t) ∧
      (⟨.start, s.pieces⟩ : Chunked).readMany n = (⟨.start, t.pieces⟩ : Chunked).readMany n ∧
      readMany n (fresh s) = (⟨.start, s.pieces⟩ : Chunked).readMany n := by
  have hdecoder : (⟨.start, s.pieces⟩ : Chunked).readMany n =
      (⟨.start, t.pieces⟩ : Chunked).readMany n := by
    rw [Chunked.readMany_eq, Chunked.readMany_eq]
    exact congrArg (Frame.readMany n) h
  refine ⟨?_, hdecoder, readMany_fresh s n⟩
  rw [readMany_fresh, readMany_fresh, hdecoder]

/-- A line that is no header line, the frame of a character of two bytes, and a frame that breaks
off: in one piece, and one byte at a time. -/
theorem readMany_of_bytes_bytewise :
    let stream := Json.utf8 "Oops\r\nContent-Length: 4\r\n\r\n\"é\"Content-Length: 9\r\n\r\n\x7b"
    let whole : Source := ⟨[stream], by decide⟩
    let bytewise : Source := ⟨stream.map fun b => [b], by simp⟩
    let reads := [.fault (.malformedLine "Oops".toList), .message (.str "é"), .fault .endInBody,
      .ended]
    whole.bytes = bytewise.bytes ∧ readMany 4 (fresh whole) = reads ∧
      readMany 4 (fresh bytewise) = reads := by
  intro stream whole bytewise reads
  have hbytes : whole.bytes = bytewise.bytes := by rfl
  obtain ⟨hsame, -, hdecoder⟩ := readMany_of_bytes hbytes 4
  have hreads : (⟨.start, whole.pieces⟩ : Chunked).readMany 4 = reads := by rfl
  exact ⟨hbytes, hdecoder.trans hreads, hsame.symm.trans (hdecoder.trans hreads)⟩

end Buffered

end Frame

end LanguageClient
