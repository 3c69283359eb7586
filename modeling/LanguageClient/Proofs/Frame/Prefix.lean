import LanguageClient.Proofs.Frame.Grammar

/-!
# Streams that are cut short

The bytes of frames one after another, as far as they have come, are read as the first of the
frames: `Chunked.readAll_prefix`. A frame that has not come as a whole is no message, nor is one
whose body is too long. Whatever its header looks like, a message that breaks off is a fault, and
its beginning is not a message: `Whole.read_part`.
-/

namespace LanguageClient

namespace Frame

open Decoder

/-- The value that a read gives. -/
def Read.message? : Read → Option Json
  | .message v => some v
  | _ => none

variable {m n : Nat} {stream body rest more : List UInt8} {v said : Json}

/-- Digits are read as the number that they were written for, or not at all. -/
lemma eq_of_readLength (h : readLength (Nat.toDigits 10 n) = .ok m) : m = n := by
  obtain ⟨digits, hdigits | hplus, -, -, hvalue, -⟩ := readLength_eq_ok_iff.mp h
  · rw [← hdigits, Nat.ofDigitChars_toDigits (by decide) (by decide)] at hvalue
    exact hvalue.symm
  · have hmem : '+' ∈ Nat.toDigits 10 n := hplus ▸ List.mem_cons_self ..
    exact absurd (Nat.isDigit_of_mem_toDigits (by decide) (by decide) hmem) (by decide)

/-- A header before a message gives a length that is not too long. -/
lemma le_maxBody_of_message (h : (Decoder.start.next (header n ++ more)).1 = .message v) :
    n ≤ maxBody := by
  by_contra hsize
  rw [next, feed_header, lineLength_eq_readLength] at h
  cases hread : readLength (Nat.toDigits 10 n) with
  | error fault =>
    rw [hread] at h
    cases h
  | ok m =>
    obtain rfl := eq_of_readLength hread
    rw [hread] at h
    simp only [beginBody, if_pos (Nat.lt_of_not_le hsize)] at h
    cases h

lemma Framed.append (h : Framed stream body rest) (more : List UInt8) :
    Framed (stream ++ more) body (rest ++ more) := by
  obtain ⟨lines, given, blank, rfl, hlines, hblank, hlast, hsize⟩ := h
  exact ⟨lines, given, blank, List.append_assoc .., hlines, hblank, hlast, hsize⟩

/-- A message at the beginning of a stream that begins with the frame of a value is what the text
of the value says, and the rest is left. -/
lemma Framed.of_encode (h : Framed (encode v ++ more) body rest)
    (hbody : Json.parse body = .ok said) :
    Json.parse v.encode = .ok said ∧ rest = more := by
  have hnext := h.next
  have hmessage : (Decoder.start.next (encode v ++ more)).1 = .message said := by
    rw [hnext, close_eq_message_iff]
    exact hbody
  have hsize : v.encode.length ≤ maxBody := by
    rw [encode, List.append_assoc] at hmessage
    exact le_maxBody_of_message hmessage
  have hwhole : Decoder.start.next (encode v ++ more) = (close v.encode, more) := by
    rw [Decoder.next, encode, feed_frame hsize]
  rw [hwhole, close_eq_message_iff] at hmessage
  rw [hwhole] at hnext
  exact ⟨hmessage, (Prod.mk.inj hnext).2.symm⟩

/--
A reader that meets the frames of values one after another, however far they have come and in
whatever chunks, gives what the texts of the first of them say, in order.
-/
theorem Chunked.readAll_prefix {vs : List Json} {chunks : List (List UInt8)}
    (h : chunks.flatten <+: vs.flatMap encode) (fuel : Nat) :
    ∃ sent, sent <+: vs ∧
      List.Forall₂ (fun v said => Json.parse v.encode = .ok said) sent
        (((⟨.start, chunks⟩ : Chunked).readAll fuel).filterMap Read.message?) := by
  induction fuel generalizing vs chunks with
  | zero => exact ⟨[], List.nil_prefix, .nil⟩
  | succ fuel ih =>
    obtain ⟨left, hread, hleft⟩ := takeChunks_eq .start chunks
    rw [Chunked.readAll, Chunked.read, hread]
    cases hr : (Decoder.start.next chunks.flatten).1 with
    | ended => exact ⟨[], List.nil_prefix, .nil⟩
    | fault f => exact ⟨[], List.nil_prefix, .nil⟩
    | message said =>
      obtain ⟨body, rest, hframed, hbody⟩ := next_start_eq_message_iff.mp hr
      obtain ⟨more, hmore⟩ := h
      cases vs with
      | nil =>
        rw [(List.append_eq_nil_iff.mp hmore).1] at hr
        cases hr
      | cons v vs =>
        have hlonger := hframed.append more
        rw [hmore, List.flatMap_cons] at hlonger
        obtain ⟨hsaid, hrest⟩ := hlonger.of_encode hbody
        rw [hframed.next] at hleft
        obtain ⟨sent, hsent, hsays⟩ := ih ⟨more, by rw [hleft, hrest]⟩
        refine ⟨v :: sent, List.cons_prefix_cons.mpr ⟨rfl, hsent⟩, ?_⟩
        exact .cons hsaid hsays

/-- Plain values are what their texts say. -/
lemma eq_of_says {sent messages : List Json} (hplain : ∀ v ∈ sent, v.Plain 127)
    (h : List.Forall₂ (fun v said => Json.parse v.encode = .ok said) sent messages) :
    messages = sent := by
  induction h with
  | nil => rfl
  | @cons v said sent messages hsaid _ ih =>
    obtain ⟨hv, hsent⟩ := List.forall_mem_cons.mp hplain
    rw [hv.parse_encode (by decide), Except.ok.injEq] at hsaid
    rw [hsaid, ih hsent]

/-! ### Messages that break off -/

/-- Bytes that are read as one message, and nothing is left of them. -/
def Whole (message : List UInt8) (v : Json) : Prop := Frame.read message = (.message v, [])

namespace Whole

variable {message part other : List UInt8} {u : Json}

lemma framed (h : Whole message v) : ∃ body, Framed message body [] ∧ Json.parse body = .ok v := by
  have hnext : Decoder.start.next message = (.message v, []) := h
  obtain ⟨body, rest, hframed, hparse⟩ := next_start_eq_message_iff.mp (congrArg Prod.fst hnext)
  obtain rfl : rest = [] := congrArg Prod.snd (hframed.next.symm.trans hnext)
  exact ⟨body, hframed, hparse⟩

/-- A whole message is read first of a stream that begins with it. -/
lemma next_append (h : Whole message v) (more : List UInt8) :
    Decoder.start.next (message ++ more) = (.message v, more) := by
  obtain ⟨body, hframed, hparse⟩ := h.framed
  rw [(hframed.append more).next, close_eq_message_iff.mpr hparse, List.nil_append]

/-- A read of a part of a message comes to nothing before the part breaks off: what it gives and
leaves, a read of the whole message gives and leaves as well. -/
lemma feed_part (h : Whole message v) (hpart : part <+: message) (hproper : part ≠ message) :
    ∃ d left, Decoder.start.feed part = (d, none, left) := by
  obtain ⟨more, rfl⟩ := hpart
  have hmore : more ≠ [] := by
    rintro rfl
    exact hproper (List.append_nil part).symm
  rcases hfeed : Decoder.start.feed part with ⟨d, _ | r, left⟩
  · exact ⟨d, left, rfl⟩
  · have hread : Frame.read (part ++ more) = (r, left ++ more) := by
      rw [Frame.read, feed_append_of_some hfeed]
    have hleft : left ++ more = [] := congrArg Prod.snd (hread.symm.trans h)
    exact absurd (List.append_eq_nil_iff.mp hleft).2 hmore

/-- A part of a message is no message. -/
lemma part_ne_message (h : Whole message v) (hpart : part <+: message) (hproper : part ≠ message)
    (u : Json) : (Decoder.start.next part).1 ≠ .message u := by
  intro hmessage
  obtain ⟨d, left, hfeed⟩ := h.feed_part hpart hproper
  obtain ⟨body, rest, hframed, hparse⟩ := next_start_eq_message_iff.mp hmessage
  have hrest : rest = [] := by
    have hnext := hframed.next
    rw [next, hfeed] at hnext
    exact (congrArg Prod.snd hnext).symm
  obtain ⟨more, rfl⟩ := hpart
  have hwhole : Decoder.start.next (part ++ more) = (.message v, []) := h
  rw [(hframed.append more).next, hrest, List.nil_append] at hwhole
  obtain rfl : more = [] := congrArg Prod.snd hwhole
  exact hproper (List.append_nil part).symm

/-- A part of a message is read to its end. If it is empty, that is the end of the stream, and a
fault if not. -/
theorem read_part (h : Whole message v) (hpart : part <+: message) (hproper : part ≠ message) :
    ∃ r, Frame.read part = (r, []) ∧
      (part = [] → r = .ended) ∧ (part ≠ [] → ∃ f, r = .fault f) := by
  obtain ⟨d, left, hfeed⟩ := h.feed_part hpart hproper
  have hnext : Decoder.start.next part = (d.finish, []) := by rw [next, hfeed]
  have hfirst : (Decoder.start.next part).1 = d.finish := congrArg Prod.fst hnext
  refine ⟨d.finish, hnext, fun hempty => ?_, fun hsome => ?_⟩
  · exact hfirst.symm.trans (next_start_eq_ended_iff.mpr hempty)
  · cases hfinish : d.finish with
    | message u => exact absurd (hfirst.trans hfinish) (h.part_ne_message hpart hproper u)
    | ended => exact absurd (next_start_eq_ended_iff.mp (hfirst.trans hfinish)) hsome
    | fault f => exact ⟨f, rfl⟩

/-- No message is the beginning of another. -/
theorem eq_of_prefix (h : Whole message v) (hother : Whole other u) (hbegins : other <+: message) :
    other = message := by
  by_contra hproper
  exact h.part_ne_message hbegins hproper u (congrArg Prod.fst hother)

end Whole

/-- Whole messages are read one after another, and then what stands after them. -/
theorem Chunked.readAll_whole {messages chunks : List (List UInt8)} {sent : List Json}
    (h : List.Forall₂ Whole messages sent) (hchunks : chunks.flatten = messages.flatten ++ rest) :
    ∃ left : List (List UInt8), left.flatten = rest ∧ ∀ fuel,
      (⟨.start, chunks⟩ : Chunked).readAll (sent.length + fuel) =
        sent.map .message ++ (⟨.start, left⟩ : Chunked).readAll fuel := by
  induction h generalizing chunks with
  | nil =>
    refine ⟨chunks, hchunks, fun fuel => ?_⟩
    rw [List.length_nil, Nat.zero_add, List.map_nil, List.nil_append]
  | @cons message v messages sent hmessage _ ih =>
    obtain ⟨left, hread, hleft⟩ := takeChunks_eq .start chunks
    rw [hchunks, List.flatten_cons, List.append_assoc, hmessage.next_append] at hread hleft
    obtain ⟨last, hlast, hrest⟩ := ih hleft
    refine ⟨last, hlast, fun fuel => ?_⟩
    rw [List.length_cons, Nat.add_right_comm, Chunked.readAll, Chunked.read, hread]
    exact congrArg (List.cons _) (hrest fuel)

/-- The reads of whole messages and of a stream that gives no message after them. -/
theorem Chunked.readAll_broken {messages chunks : List (List UInt8)} {sent : List Json} {r : Read}
    (h : List.Forall₂ Whole messages sent) (hchunks : chunks.flatten = messages.flatten ++ rest)
    (hread : (Frame.read rest).1 = r) (hr : r.message? = none) {fuel : Nat}
    (hfuel : sent.length < fuel) :
    (⟨.start, chunks⟩ : Chunked).readAll fuel = sent.map .message ++ [r] := by
  obtain ⟨left, hleft, hreads⟩ := Chunked.readAll_whole h hchunks
  obtain ⟨last, htake, -⟩ := takeChunks_eq .start left
  obtain ⟨n, rfl⟩ : ∃ n, fuel = sent.length + (n + 1) := ⟨fuel - sent.length - 1, by omega⟩
  have hnext : (Decoder.start.next left.flatten).1 = r := hleft ▸ hread
  rw [hreads, Chunked.readAll, Chunked.read, htake, hnext]
  cases r with
  | message v => cases hr
  | ended | fault f => rfl

end Frame

end LanguageClient
