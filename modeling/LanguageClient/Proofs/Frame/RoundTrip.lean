import LanguageClient.Frame
import LanguageClient.Proofs.Json.RoundTrip

/-!
# Frames written and read back

What a reader gives depends on the bytes of its stream and not on the chunks that they come in, and
a body of any bytes is read as it was framed. So values that are written one after another are read
one after another, and nothing after them.
-/

namespace LanguageClient

namespace Text

lemma isBlank_of_isDigit {c : Char} (h : c.isDigit = true) : isBlank c = false := by
  simp only [Char.isDigit, Bool.and_eq_true, decide_eq_true_eq] at h
  have hlow : 48 ≤ c.toNat := h.1
  have hhigh : c.toNat ≤ 57 := h.2
  simp [isBlank]
  omega

/-- Characters of the class at the end are dropped, up to the last that is not of the class. -/
lemma dropEnd_append {p : Char → Bool} {cs ds : List Char} (hcs : ∀ c ∈ cs, p c = false)
    (hds : ∀ d ∈ ds, p d = true) : dropEnd p (cs ++ ds) = cs := by
  have hrest : cs.reverse.dropWhile p = cs.reverse := by
    cases hrev : cs.reverse with
    | nil => rfl
    | cons c rest =>
      have hc : c ∈ cs := List.mem_reverse.mp (hrev ▸ List.mem_cons_self ..)
      rw [List.dropWhile_cons_of_neg]
      simp [hcs c hc]
  rw [dropEnd, List.reverse_append, List.dropWhile_append_of_pos, hrest, List.reverse_reverse]
  intro d hd
  exact hds d (List.mem_reverse.mp hd)

/-- A text without blanks is what is left after one blank before it. -/
lemma trim_blank {cs : List Char} (h : ∀ c ∈ cs, isBlank c = false) : trim (' ' :: cs) = cs := by
  have hfront : (' ' :: cs).dropWhile isBlank = cs := by
    rw [List.dropWhile_cons_of_pos rfl]
    cases cs with
    | nil => rfl
    | cons c rest =>
      rw [List.dropWhile_cons_of_neg]
      simp [h c (List.mem_cons_self ..)]
  have hend : dropEnd isBlank (cs ++ []) = cs := dropEnd_append h nofun
  rw [List.append_nil] at hend
  rw [trim, hfront, hend]

end Text

namespace Frame

/-! ### Chunks -/

namespace Decoder

variable {d d' : Decoder} {b : UInt8} {r : Read} {bytes more left : List UInt8}

/-- A frame that is complete or broken leaves nothing of itself behind. -/
lemma push_some (h : d.push b = (d', some r)) : d' = start := by
  cases d with
  | line read length first =>
    simp only [push, endLine, beginBody] at h
    grind
  | body read left =>
    simp only [push] at h
    grind

lemma feed_some (h : d.feed bytes = (d', some r, left)) : d' = start := by
  induction bytes generalizing d with
  | nil => cases h
  | cons b bytes ih =>
    rw [feed] at h
    split at h
    case h_1 next r' hpush =>
      cases h
      exact push_some hpush
    case h_2 next hpush => exact ih h

lemma feed_append_of_some (h : d.feed bytes = (d', some r, left)) (more : List UInt8) :
    d.feed (bytes ++ more) = (d', some r, left ++ more) := by
  induction bytes generalizing d with
  | nil => cases h
  | cons b bytes ih =>
    rw [feed] at h
    rw [List.cons_append, feed]
    split at h
    case h_1 next r' hpush =>
      cases h
      rfl
    case h_2 next hpush => exact ih h

lemma feed_append_of_none (h : d.feed bytes = (d', none, left)) (more : List UInt8) :
    d.feed (bytes ++ more) = d'.feed more := by
  induction bytes generalizing d with
  | nil =>
    cases h
    rfl
  | cons b bytes ih =>
    rw [feed] at h
    rw [List.cons_append, feed]
    split at h
    case h_1 next r' hpush => cases h
    case h_2 next hpush => exact ih h

/-- What a read gives that has come as far as `d`, and what it leaves unread. -/
def next (d : Decoder) (stream : List UInt8) : Read × List UInt8 :=
  match d.feed stream with
  | (_, some r, rest) => (r, rest)
  | (d, none, _) => (d.finish, [])

end Decoder

open Decoder

/-- A read of chunks gives what a read of their bytes gives, and leaves the same bytes. -/
lemma takeChunks_eq (d : Decoder) (chunks : List (List UInt8)) :
    ∃ left, takeChunks d chunks = ((d.next chunks.flatten).1, ⟨.start, left⟩) ∧
      left.flatten = (d.next chunks.flatten).2 := by
  induction chunks generalizing d with
  | nil => exact ⟨[], rfl, rfl⟩
  | cons chunk rest ih =>
    rw [takeChunks, List.flatten_cons]
    split
    case h_1 d' r left hfeed =>
      obtain rfl := feed_some hfeed
      rw [next, feed_append_of_some hfeed]
      exact ⟨left :: rest, rfl, rfl⟩
    case h_2 d' left hfeed =>
      rw [next, feed_append_of_none hfeed]
      exact ih d'

/-- How the bytes of a stream are cut into chunks does not matter. -/
theorem Chunked.readMany_eq (chunks : List (List UInt8)) (n : Nat) :
    (⟨.start, chunks⟩ : Chunked).readMany n = Frame.readMany n chunks.flatten := by
  induction n generalizing chunks with
  | zero => rfl
  | succ n ih =>
    obtain ⟨left, hread, hleft⟩ := takeChunks_eq .start chunks
    have hnext : Frame.read chunks.flatten = Decoder.start.next chunks.flatten := rfl
    rw [Chunked.readMany, Frame.readMany, Chunked.read, hread, hnext]
    exact congrArg (List.cons _) ((ih left).trans (congrArg (Frame.readMany n) hleft))

/-! ### Header lines -/

lemma readDigits_append {cs ds : List Char} {m n : Nat} (h : readDigits m cs = .ok n) :
    readDigits m (cs ++ ds) = readDigits n ds := by
  induction cs generalizing m with
  | nil =>
    cases h
    rfl
  | cons c cs ih =>
    rw [readDigits] at h
    rw [List.cons_append, readDigits]
    split at h
    case isTrue => cases h
    case isFalse hdigit =>
      split at h
      case isTrue hsmall =>
        rw [if_neg hdigit, if_pos hsmall]
        exact ih h
      case isFalse => cases h

lemma readDigits_digitChar {m d : Nat} (hd : d < 10) (h : m * 10 + d < wordLimit) :
    readDigits m [Nat.digitChar d] = .ok (m * 10 + d) := by
  have hdigit : (Nat.digitChar d).isDigit = true := by simpa [Nat.isDigit_digitChar] using hd
  rw [readDigits, hdigit, Nat.toNat_digitChar_sub_48_of_lt_ten hd]
  simp [h, readDigits]

/-- The digits of a number are read as the number. -/
lemma readDigits_toDigits {n : Nat} (h : n < wordLimit) :
    readDigits 0 (Nat.toDigits 10 n) = .ok n := by
  induction n using Nat.strongRecOn with
  | ind n ih =>
    by_cases hn : n < 10
    · rw [Nat.toDigits_of_lt_base hn, readDigits_digitChar hn (by omega), Nat.zero_mul,
        Nat.zero_add]
    · have hlead := ih (n / 10) (by omega) (by omega)
      have hlast : n % 10 < 10 := Nat.mod_lt n (by decide)
      have hvalue : n / 10 * 10 + n % 10 = n := Nat.div_add_mod' n 10
      rw [Nat.toDigits_of_base_le (by decide) (by omega), readDigits_append hlead,
        readDigits_digitChar hlast (by omega), hvalue]

lemma readLength_toDigits {n : Nat} (h : n < wordLimit) :
    readLength (Nat.toDigits 10 n) = .ok n := by
  have hread := readDigits_toDigits h
  have hdigit (c : Char) (hc : c ∈ Nat.toDigits 10 n) : c.isDigit = true :=
    Nat.isDigit_of_mem_toDigits (by decide) (by decide) hc
  unfold readLength
  split
  case h_1 hnone => exact absurd hnone Nat.toDigits_ne_nil
  case h_2 hplus | h_3 digits hplus =>
    rw [hplus] at hdigit
    exact absurd (hdigit '+' (List.mem_cons_self ..)) (by decide)
  case h_4 => exact hread

/-- The line that gives the length of a body, without its end. -/
def lengthLine (n : Nat) : List Char := lengthName ++ ':' :: ' ' :: Nat.toDigits 10 n

lemma lineLength_eq_readLength (n : Nat) :
    lineLength (lengthLine n) =
      match readLength (Nat.toDigits 10 n) with
      | .ok m => .ok (some m)
      | .error fault => .error (.badLength (Nat.toDigits 10 n) fault) := by
  have hname : ∀ c ∈ lengthName, decide (c ≠ ':') = true := List.all_eq_true.mp rfl
  have htake : (lengthLine n).takeWhile (· ≠ ':') = lengthName := by
    rw [lengthLine, List.takeWhile_append_of_pos hname, List.takeWhile_cons_of_neg (by decide),
      List.append_nil]
  have hdrop : (lengthLine n).dropWhile (· ≠ ':') = ':' :: ' ' :: Nat.toDigits 10 n := by
    rw [lengthLine, List.dropWhile_append_of_pos hname, List.dropWhile_cons_of_neg (by decide)]
  have htrim : Text.trim (' ' :: Nat.toDigits 10 n) = Nat.toDigits 10 n :=
    Text.trim_blank fun c hc =>
      Text.isBlank_of_isDigit (Nat.isDigit_of_mem_toDigits (by decide) (by decide) hc)
  have hlengthName : isLengthName lengthName = true := by decide
  cases hread : readLength (Nat.toDigits 10 n) <;>
    simp only [lineLength, hdrop, htake, hlengthName, if_true, htrim, hread]

lemma lineLength_lengthLine {n : Nat} (h : n < wordLimit) :
    lineLength (lengthLine n) = .ok (some n) := by
  rw [lineLength_eq_readLength, readLength_toDigits h]

/-- An ASCII line that ends as it should is taken without its end. -/
lemma endLine_ascii {line : List Char} (hascii : ∀ c ∈ line, c.toNat < 0x80)
    (hends : ∀ c ∈ line, c ≠ '\r' ∧ c ≠ '\n') (length : Option Nat) :
    endLine (0x0A :: 0x0D :: (Json.ascii line).reverse) length =
      if line = [] then beginBody length
      else match lineLength line with
        | .error f => (start, some (.fault f))
        | .ok found => (.line [] (found <|> length) false, none) := by
  have hcrlf : ∀ c ∈ ['\r', '\n'], c.toNat < 0x80 := by simp
  have hbytes : (0x0A :: 0x0D :: (Json.ascii line).reverse).reverse =
      Json.utf8 (String.ofList (line ++ ['\r', '\n'])) := by
    rw [← Json.ascii_eq_utf8]
    · simp [Json.ascii]
    · intro c hc
      rcases List.mem_append.mp hc with hc | hc
      · exact hascii c hc
      · exact hcrlf c hc
  have hcontent : Text.dropEnd (fun c => c = '\r' || c = '\n') (line ++ ['\r', '\n']) = line := by
    refine Text.dropEnd_append ?_ (by simp)
    intro c hc
    simp [hends c hc]
  simp only [endLine, hbytes, Json.fault?_utf8, Json.fromUTF8?_utf8, Option.getD_some,
    String.toList_ofList, hcontent]
  cases line <;> rfl

/-! ### Frames -/

namespace Decoder

/-- A line is taken up to its line feed. -/
lemma feed_line {bytes : List UInt8} (h : 0x0A ∉ bytes) (read more : List UInt8)
    (length : Option Nat) (first : Bool) :
    (line read length first).feed (bytes ++ more) =
      (line (bytes.reverse ++ read) length first).feed more := by
  induction bytes generalizing read with
  | nil => rfl
  | cons b bytes ih =>
    have hb : b ≠ 0x0A := fun hb => h (hb ▸ List.mem_cons_self ..)
    have hrest := ih (fun hmem => h (List.mem_cons_of_mem _ hmem)) (b :: read)
    rw [List.cons_append, feed, push, if_neg hb, List.reverse_cons, List.append_assoc]
    exact hrest

/-- A line that ends is taken with its line feed. -/
lemma feed_wholeLine {bytes : List UInt8} (h : 0x0A ∉ bytes) (more : List UInt8)
    (length : Option Nat) (first : Bool) :
    (line [] length first).feed (bytes ++ 0x0A :: more) =
      match endLine (0x0A :: bytes.reverse) length with
      | (d, some r) => (d, some r, more)
      | (d, none) => d.feed more := by
  rw [feed_line h, List.append_nil]
  rcases hend : endLine (0x0A :: bytes.reverse) length with ⟨d, _ | r⟩ <;>
    simp only [feed, push, if_true, hend]

/-- A body is taken up to its last byte. -/
lemma feed_body {bytes : List UInt8} {left : Nat} (hleft : bytes.length = left) (hpos : 0 < left)
    (read more : List UInt8) :
    (body read left).feed (bytes ++ more) =
      (start, some (close (read.reverse ++ bytes)), more) := by
  induction bytes generalizing read left with
  | nil =>
    obtain rfl := hleft
    cases hpos
  | cons b bytes ih =>
    rw [List.length_cons] at hleft
    rw [List.cons_append, feed, push]
    by_cases hlast : left ≤ 1
    · obtain rfl : bytes = [] := List.length_eq_zero_iff.mp (by omega)
      rw [if_pos hlast, List.reverse_cons]
      rfl
    · rw [if_neg hlast]
      have hfewer : bytes.length = left - 1 := by omega
      have hrest := ih hfewer (by omega) (b :: read)
      rw [List.reverse_cons, List.append_assoc] at hrest
      exact hrest

end Decoder

/-- After a header that gives the length of a body, the body is taken. -/
lemma feed_begun {body : List UInt8} (hsize : body.length ≤ maxBody) (more : List UInt8) :
    (match beginBody (some body.length) with
      | (d, some r) => (d, some r, body ++ more)
      | (d, none) => d.feed (body ++ more)) = (.start, some (close body), more) := by
  rw [beginBody, if_neg (Nat.not_lt_of_le hsize)]
  by_cases hempty : body = []
  · subst hempty
    rfl
  · have hpos : 0 < body.length := List.length_pos_iff.mpr hempty
    rw [if_neg (Nat.ne_of_gt hpos)]
    exact feed_body rfl hpos [] more

/-- An ASCII line is taken up to its end. -/
lemma feed_asciiLine {line : List Char} (hascii : ∀ c ∈ line, c.toNat < 0x80)
    (hends : ∀ c ∈ line, c ≠ '\r' ∧ c ≠ '\n') (more : List UInt8) (length : Option Nat)
    (first : Bool) :
    (Decoder.line [] length first).feed (Json.ascii line ++ 0x0D :: 0x0A :: more) =
      match endLine (0x0A :: 0x0D :: (Json.ascii line).reverse) length with
      | (d, some r) => (d, some r, more)
      | (d, none) => d.feed more := by
  have hbytes : 0x0A ∉ Json.ascii line ++ [0x0D] := by
    intro hmem
    rcases List.mem_append.mp hmem with hmem | hmem
    · obtain ⟨c, hc, hfeed⟩ := List.mem_map.mp hmem
      have hnat : c.toNat = 10 := by
        have hsmall := hascii c hc
        have hmod := congrArg UInt8.toNat hfeed
        simp only [Nat.toUInt8_eq, UInt8.toNat_ofNat', UInt8.reduceToNat] at hmod
        omega
      exact (hends c hc).2 (Char.toNat_inj.mp hnat)
    · revert hmem
      decide
  have hline := feed_wholeLine hbytes more length first
  rw [List.append_assoc, List.singleton_append, List.reverse_append] at hline
  exact hline

lemma ascii_lengthLine (n : Nat) :
    ∀ c ∈ lengthLine n, c.toNat < 0x80 ∧ c ≠ '\r' ∧ c ≠ '\n' := by
  have hname : ∀ c ∈ lengthName, c.toNat < 0x80 ∧ c ≠ '\r' ∧ c ≠ '\n' := by
    have hall : lengthName.all (fun c => c.toNat < 0x80 && c ≠ '\r' && c ≠ '\n') = true := rfl
    simpa [and_assoc] using hall
  intro c hc
  rcases List.mem_append.mp hc with hc | hc
  · exact hname c hc
  · rcases List.mem_cons.mp hc with rfl | hc
    · decide
    rcases List.mem_cons.mp hc with rfl | hc
    · decide
    have hdigit : c.isDigit = true := Nat.isDigit_of_mem_toDigits (by decide) (by decide) hc
    refine ⟨?_, ?_, ?_⟩
    · simp only [Char.isDigit, Bool.and_eq_true, decide_eq_true_eq] at hdigit
      have hhigh : c.toNat ≤ 57 := hdigit.2
      omega
    · rintro rfl
      cases hdigit
    · rintro rfl
      cases hdigit

/-- A header is read to its end, and then the body begins. -/
lemma feed_header (n : Nat) (more : List UInt8) :
    Decoder.start.feed (header n ++ more) =
      match lineLength (lengthLine n) with
      | .error f => (.start, some (.fault f), 0x0D :: 0x0A :: more)
      | .ok found =>
        match beginBody found with
        | (d, some r) => (d, some r, more)
        | (d, none) => d.feed more := by
  have hascii := ascii_lengthLine n
  have hheader : header n ++ more =
      Json.ascii (lengthLine n) ++ 0x0D :: 0x0A :: (Json.ascii [] ++ 0x0D :: 0x0A :: more) := by
    simp [header, lengthLine, Json.ascii]
  have hcontent : lengthLine n ≠ [] := by simp [lengthLine]
  rw [hheader, start, feed_asciiLine (fun c hc => (hascii c hc).1) fun c hc => (hascii c hc).2,
    endLine_ascii (fun c hc => (hascii c hc).1) fun c hc => (hascii c hc).2, if_neg hcontent]
  cases lineLength (lengthLine n) with
  | error f => rfl
  | ok found =>
    have hfound : (found <|> none) = found := by cases found <;> rfl
    simp only [hfound]
    rw [feed_asciiLine (List.forall_mem_nil _) (List.forall_mem_nil _),
      endLine_ascii (List.forall_mem_nil _) (List.forall_mem_nil _), if_pos rfl]

/-- A body of any bytes is read as it was framed. -/
theorem feed_frame {body : List UInt8} (hsize : body.length ≤ maxBody) (more : List UInt8) :
    Decoder.start.feed (header body.length ++ body ++ more) =
      (.start, some (close body), more) := by
  have hword : body.length < wordLimit := Nat.lt_of_le_of_lt hsize (by decide)
  rw [List.append_assoc, feed_header, lineLength_lengthLine hword]
  exact feed_begun hsize more

/-- A stream of frames is read frame by frame, and then it has ended. -/
theorem readMany_flatMap {vs : List Json} (hplain : ∀ v ∈ vs, v.Plain 127)
    (hsize : ∀ v ∈ vs, v.encode.length ≤ maxBody) (k : Nat) :
    Frame.readMany (vs.length + k) (vs.flatMap encode) =
      vs.map .message ++ List.replicate k .ended := by
  induction vs with
  | nil =>
    simp only [List.length_nil, Nat.zero_add, List.flatMap_nil, List.map_nil, List.nil_append]
    induction k with
    | zero => rfl
    | succ k ih =>
      rw [List.replicate_succ, ← ih]
      rfl
  | cons v vs ih =>
    have hread : Frame.read (encode v ++ vs.flatMap encode) =
        (.message v, vs.flatMap encode) := by
      have hv : Json.parse v.encode = .ok v :=
        (hplain v (List.mem_cons_self ..)).parse_encode (by decide)
      have hfeed := feed_frame (hsize v (List.mem_cons_self ..)) (vs.flatMap encode)
      rw [Frame.read, encode, hfeed]
      simp only [close, hv]
    have hcount : (v :: vs).length + k = vs.length + k + 1 := by
      rw [List.length_cons]
      omega
    rw [hcount, List.flatMap_cons, Frame.readMany, hread, List.map_cons, List.cons_append]
    exact congrArg (List.cons _) (ih (fun u hu => hplain u (List.mem_cons_of_mem _ hu))
      fun u hu => hsize u (List.mem_cons_of_mem _ hu))

/--
Values whose numbers are integers of a 64-bit word, nested at most 127 deep and each of at most
eight mebibytes, are written one after another. However their bytes are cut into chunks, they are
read back in order, and every read after them gives the end of the stream.
-/
theorem Chunked.readMany_encode {vs : List Json} {chunks : List (List UInt8)}
    (hplain : ∀ v ∈ vs, v.Plain 127) (hsize : ∀ v ∈ vs, v.encode.length ≤ maxBody)
    (hcut : chunks.flatten = vs.flatMap encode) (k : Nat) :
    (⟨.start, chunks⟩ : Chunked).readMany (vs.length + k) =
      vs.map .message ++ List.replicate k .ended := by
  rw [Chunked.readMany_eq, hcut, readMany_flatMap hplain hsize]

/-- Text that has to be escaped and text of several bytes a character, the least and the greatest
integer, and as many containers inside one another as there may be, in frames that come one byte at
a time. -/
theorem Chunked.readMany_encode_bytewise :
    let text : Json := .obj [("id", .int (-0x8000000000000000)), ("text", .str "\"\\\n\u0001é😀")]
    let greatest : Json := .arr [.int 0xFFFFFFFFFFFFFFFF, .obj [], .null, .bool true]
    let deep : Json := (fun v => .arr [v])^[127] .null
    let vs : List Json := [text, greatest, deep]
    (∀ v ∈ vs, v.Plain 127) ∧ (∀ v ∈ vs, v.encode.length ≤ maxBody) ∧
      (⟨.start, (vs.flatMap encode).map fun b => [b]⟩ : Chunked).readMany 5 =
        [.message text, .message greatest, .message deep, .ended, .ended] := by
  intro text greatest deep vs
  have htext : text.Plain 127 := by
    refine .obj (List.pairwise_pair.mpr (by decide)) fun e he => ?_
    simp only [List.mem_cons, List.not_mem_nil, or_false] at he
    rcases he with rfl | rfl
    · exact .int (by decide) (by decide)
    · exact .str _
  have hgreatest : greatest.Plain 127 := by
    refine .arr fun v hv => ?_
    simp only [List.mem_cons, List.not_mem_nil, or_false] at hv
    rcases hv with rfl | rfl | rfl | rfl
    · exact .int (by decide) (by decide)
    · exact .obj Table.sorted_nil nofun
    · exact .null
    · exact .bool true
  have hdeep : deep.Plain 127 := .nested 127
  have hplain : ∀ v ∈ vs, v.Plain 127 := by
    simp [vs, htext, hgreatest, hdeep]
  have hsize : ∀ v ∈ vs, v.encode.length ≤ maxBody := by
    simp only [vs, List.mem_cons, List.not_mem_nil, or_false]
    rintro v (rfl | rfl | rfl)
    · decide
    · decide
    · rw [Json.length_encode_nested]
      decide
  have hcut (bytes : List UInt8) : (bytes.map fun b => [b]).flatten = bytes := by
    rw [← List.flatMap_def, List.flatMap_singleton']
  exact ⟨hplain, hsize, Chunked.readMany_encode hplain hsize (hcut _) 2⟩

end Frame

end LanguageClient
