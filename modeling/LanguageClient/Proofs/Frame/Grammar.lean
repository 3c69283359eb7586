import LanguageClient.Proofs.Frame.RoundTrip
import Mathlib.Data.List.DropRight
import Mathlib.Data.List.ReduceOption

/-!
# The grammar of frames

A frame is header lines, a blank line and a body of as many bytes as the last header line about the
length says. `Framed` is this grammar, written without the decoder. A read gives a message exactly
when the stream begins with a frame whose body is JSON, and it leaves what stands after the frame:
`Chunked.read_framed`.
-/

namespace LanguageClient

namespace Frame

open Decoder

/-! ### The grammar -/

/-- A line of a stream: text without a line feed, before a line feed. -/
structure Line where
  text : List Char
  no_feed : '\n' ∉ text

namespace Line

def bytes (l : Line) : List UInt8 := Json.utf8 (String.ofList (l.text ++ ['\n']))

/-- What the line says, without the returns and feeds at its end. -/
def content (l : Line) : List Char := l.text.rdropWhile fun c => c = '\r' || c = '\n'

end Line

/-- A text is a word with perhaps blanks around it. -/
def Holds (text word : List Char) : Prop :=
  ∃ before after, text = before ++ word ++ after ∧
    (∀ c ∈ before, Text.isBlank c = true) ∧ ∀ c ∈ after, Text.isBlank c = true

/-- A name is that of the length, in letters of either case. -/
def NamesLength (name : List Char) : Prop :=
  ∃ word, Holds name word ∧ word.map Char.toLower = lengthName.map Char.toLower

/-- A word is a number below `2 ^ 64` in decimal digits, with perhaps a plus sign before them. -/
def Denotes (word : List Char) (n : Nat) : Prop :=
  ∃ digits, (word = digits ∨ word = '+' :: digits) ∧ digits ≠ [] ∧
    (∀ c ∈ digits, c.isDigit = true) ∧ Nat.ofDigitChars 10 digits 0 = n ∧ n < 2 ^ 64

/-- What the content of a header line says of the length. Its name ends at the first colon. -/
inductive Says : List Char → Option Nat → Prop
  | length {name value word : List Char} {n : Nat} : ':' ∉ name → NamesLength name →
    Holds value word → Denotes word n → Says (name ++ ':' :: value) (some n)
  /-- A line that is not about the length says nothing of it. -/
  | other {name value : List Char} : ':' ∉ name → ¬NamesLength name →
    Says (name ++ ':' :: value) none

/-- A stream begins with a frame of the given body, and goes on with `rest`. Of all that header
lines say, the last counts. -/
def Framed (stream body rest : List UInt8) : Prop :=
  ∃ (lines : List Line) (said : List (Option Nat)) (blank : Line),
    stream = lines.flatMap Line.bytes ++ blank.bytes ++ body ++ rest ∧
    List.Forall₂ (fun l n => Says l.content n) lines said ∧ blank.content = [] ∧
    said.reduceOption.getLast? = some body.length ∧ body.length ≤ maxBody

/-- The same part way through a header, when the lines before have given a length or not. -/
def FramedAfter (length : Option Nat) (stream body rest : List UInt8) : Prop :=
  ∃ (lines : List Line) (said : List (Option Nat)) (blank : Line),
    stream = lines.flatMap Line.bytes ++ blank.bytes ++ body ++ rest ∧
    List.Forall₂ (fun l n => Says l.content n) lines said ∧ blank.content = [] ∧
    (length :: said).reduceOption.getLast? = some body.length ∧ body.length ≤ maxBody

lemma framedAfter_none {stream body rest : List UInt8} :
    FramedAfter none stream body rest ↔ Framed stream body rest := by
  simp only [FramedAfter, Framed, List.reduceOption_cons_of_none]

/-- The lengths of a line and of those before it come to the later one. -/
lemma getLast?_reduceOption (length found : Option Nat) (said : List (Option Nat)) :
    (length :: found :: said).reduceOption.getLast? =
      ((found <|> length) :: said).reduceOption.getLast? := by
  cases found with
  | none => cases length <;> simp [List.reduceOption]
  | some n => cases length <;> simp [List.reduceOption]

namespace FramedAfter

variable {length found : Option Nat} {stream body rest : List UInt8}

/-- A header line before a frame belongs to it. -/
lemma cons {l : Line} (hl : Says l.content found)
    (h : FramedAfter (found <|> length) stream body rest) :
    FramedAfter length (l.bytes ++ stream) body rest := by
  obtain ⟨lines, said, blank, rfl, hlines, hblank, hlast, hsize⟩ := h
  refine ⟨l :: lines, found :: said, blank, ?_, .cons hl hlines, hblank, ?_, hsize⟩
  · simp
  · rw [getLast?_reduceOption]
    exact hlast

/-- After the blank line comes the body. -/
lemma blank {l : Line} (hl : l.content = []) (hsize : body.length ≤ maxBody) :
    FramedAfter (some body.length) (l.bytes ++ (body ++ rest)) body rest :=
  ⟨[], [], l, by simp, .nil, hl, by simp, hsize⟩

end FramedAfter

/-! ### Words between blanks -/

section Words

variable {text word name value : List Char} {n : Nat}

lemma holds_trim (text : List Char) : Holds text (Text.trim text) := by
  refine ⟨text.takeWhile Text.isBlank, (text.dropWhile Text.isBlank).rtakeWhile Text.isBlank,
    ?_, ?_, ?_⟩
  · have hend : Text.trim text ++ (text.dropWhile Text.isBlank).rtakeWhile Text.isBlank =
        text.dropWhile Text.isBlank := List.rdropWhile_append_rtakeWhile
    rw [List.append_assoc, hend, List.takeWhile_append_dropWhile]
  · intro c hc
    exact List.mem_takeWhile_imp hc
  · intro c hc
    exact List.mem_rtakeWhile_imp hc

lemma Holds.trim_eq (h : Holds text word) (hword : ∀ c ∈ word, Text.isBlank c = false) :
    Text.trim text = word := by
  obtain ⟨before, after, rfl, hbefore, hafter⟩ := h
  rw [Text.trim, List.append_assoc, List.dropWhile_append_of_pos hbefore]
  cases word with
  | nil =>
    have hnone : after.dropWhile Text.isBlank = [] := List.dropWhile_eq_nil_iff.mpr hafter
    rw [List.nil_append, hnone]
    rfl
  | cons c word =>
    rw [List.cons_append, List.dropWhile_cons_of_neg]
    · exact Text.dropEnd_append hword hafter
    · simp [hword c (List.mem_cons_self ..)]

lemma foldCase_eq (c : Char) : foldCase c = c.toLower := by
  rw [foldCase]
  by_cases h : 'A' ≤ c ∧ c ≤ 'Z'
  · have hlower : c.toLower = _ := dif_pos ⟨h.1, h.2⟩
    have hhigh : c.toNat ≤ 90 := h.2
    have hvalid : (c.toNat + 32).isValidChar := .inl (by omega)
    rw [if_pos (by simpa using h), hlower, Char.ofNat, dif_pos hvalid]
    apply Char.ext
    apply UInt32.toNat_inj.mp
    have hval : c.val.toNat = c.toNat := rfl
    have hdiff : ('a'.val - 'A'.val).toNat = 32 := rfl
    rw [UInt32.toNat_add, hval, hdiff, Nat.mod_eq_of_lt (by omega)]
    rfl
  · have hlower : c.toLower = c := dif_neg fun hupper => h ⟨hupper.1, hupper.2⟩
    rw [if_neg (by simpa using h), hlower]

/-- Blanks have no case. -/
lemma toLower_of_isBlank {c : Char} (h : Text.isBlank c = true) : c.toLower = c := by
  refine dif_neg ?_
  rintro ⟨hlow, hhigh⟩
  have hlow : 65 ≤ c.toNat := hlow
  have hhigh : c.toNat ≤ 90 := hhigh
  simp only [Text.isBlank, Bool.or_eq_true, Bool.and_eq_true, decide_eq_true_eq] at h
  omega

/-- The name of the length has no blanks, whatever its case. -/
lemma isBlank_of_lengthName (hword : word.map Char.toLower = lengthName.map Char.toLower) :
    ∀ c ∈ word, Text.isBlank c = false := by
  intro c hc
  by_contra hblank
  rw [Bool.not_eq_false] at hblank
  have hlower : c.toLower ∈ lengthName.map Char.toLower := hword ▸ List.mem_map_of_mem hc
  rw [toLower_of_isBlank hblank] at hlower
  have hnone : ∀ d ∈ lengthName.map Char.toLower, (!Text.isBlank d) = true :=
    List.all_eq_true.mp rfl
  have hother := hnone c hlower
  rw [hblank] at hother
  cases hother

lemma isLengthName_iff : isLengthName name = true ↔ NamesLength name := by
  have hfold : foldCase = Char.toLower := funext foldCase_eq
  rw [isLengthName, decide_eq_true_eq, hfold]
  constructor
  · intro h
    exact ⟨Text.trim name, holds_trim name, h⟩
  · rintro ⟨word, hholds, hword⟩
    rw [hholds.trim_eq (isBlank_of_lengthName hword)]
    exact hword

end Words

/-! ### Lengths -/

section Lengths

variable {digits word name value : List Char} {m n : Nat}

lemma le_ofDigitChars (digits : List Char) (m : Nat) : m ≤ Nat.ofDigitChars 10 digits m := by
  induction digits generalizing m with
  | nil => exact Nat.le_refl m
  | cons c digits ih =>
    rw [Nat.ofDigitChars_cons]
    have hrest := ih (10 * m + (c.toNat - '0'.toNat))
    omega

/-- Digits are read onto a number unless the number outgrows a word, and all digits after that
only add to it. -/
lemma readDigits_eq_ok_iff (hm : m < wordLimit) :
    readDigits m digits = .ok n ↔
      (∀ c ∈ digits, c.isDigit = true) ∧ Nat.ofDigitChars 10 digits m = n ∧ n < wordLimit := by
  induction digits generalizing m with
  | nil =>
    rw [readDigits, Except.ok.injEq]
    constructor
    · rintro rfl
      exact ⟨List.forall_mem_nil _, rfl, hm⟩
    · rintro ⟨-, hvalue, -⟩
      exact hvalue
  | cons c digits ih =>
    have hnext : m * 10 + (c.toNat - 48) = 10 * m + (c.toNat - '0'.toNat) := by
      rw [Nat.mul_comm]
      rfl
    rw [readDigits, hnext, Nat.ofDigitChars_cons, List.forall_mem_cons]
    cases hdigit : c.isDigit with
    | false => simp
    | true =>
      by_cases hsmall : 10 * m + (c.toNat - '0'.toNat) < wordLimit
      · rw [if_neg (by decide), if_pos hsmall, ih hsmall]
        simp
      · rw [if_neg (by decide), if_neg hsmall]
        constructor
        · intro herror
          cases herror
        · rintro ⟨-, rfl, hword⟩
          have hgrown := le_ofDigitChars digits (10 * m + (c.toNat - '0'.toNat))
          omega

lemma readDigits_zero_iff :
    digits ≠ [] ∧ readDigits 0 digits = .ok n ↔
      digits ≠ [] ∧ (∀ c ∈ digits, c.isDigit = true) ∧ Nat.ofDigitChars 10 digits 0 = n ∧
        n < 2 ^ 64 :=
  and_congr_right fun _ => readDigits_eq_ok_iff (by decide)

lemma readLength_eq_ok_iff : readLength word = .ok n ↔ Denotes word n := by
  unfold readLength
  split
  case h_1 =>
    constructor
    · nofun
    · rintro ⟨digits, rfl | hplus, hsome, -⟩
      · exact absurd rfl hsome
      · cases hplus
  case h_2 =>
    constructor
    · nofun
    · rintro ⟨digits, rfl | hplus, hsome, hdigits, -⟩
      · exact absurd (hdigits '+' (List.mem_cons_self ..)) (by decide)
      · cases hplus
        exact absurd rfl hsome
  case h_3 rest hrest =>
    constructor
    · intro h
      exact ⟨rest, .inr rfl, readDigits_zero_iff.mp ⟨hrest, h⟩⟩
    · rintro ⟨digits, rfl | hplus, hsome, hdigits, hvalue⟩
      · exact absurd (hdigits '+' (List.mem_cons_self ..)) (by decide)
      · cases hplus
        exact (readDigits_zero_iff.mpr ⟨hsome, hdigits, hvalue⟩).2
  case h_4 hempty _ hplus =>
    constructor
    · intro h
      exact ⟨word, .inl rfl, readDigits_zero_iff.mp ⟨hempty, h⟩⟩
    · rintro ⟨digits, rfl | rfl, hsome, hdigits, hvalue⟩
      · exact (readDigits_zero_iff.mpr ⟨hsome, hdigits, hvalue⟩).2
      · exact absurd rfl (hplus digits)

/-- A word that stands for a number has no blanks. -/
lemma Denotes.isBlank (h : Denotes word n) : ∀ c ∈ word, Text.isBlank c = false := by
  obtain ⟨digits, hword, -, hdigits, -⟩ := h
  have hnone : ∀ c ∈ digits, Text.isBlank c = false :=
    fun c hc => Text.isBlank_of_isDigit (hdigits c hc)
  rcases hword with rfl | rfl
  · exact hnone
  · exact List.forall_mem_cons.mpr ⟨rfl, hnone⟩

/-- What a line says that has a colon. -/
lemma lineLength_colon (hname : ':' ∉ name) :
    lineLength (name ++ ':' :: value) =
      if isLengthName name then
        match readLength (Text.trim value) with
        | .ok n => .ok (some n)
        | .error fault => .error (.badLength (Text.trim value) fault)
      else .ok none := by
  have hall : ∀ c ∈ name, decide (c ≠ ':') = true := by
    intro c hc
    exact decide_eq_true fun hcolon => hname (hcolon ▸ hc)
  have htake : (name ++ ':' :: value).takeWhile (· ≠ ':') = name := by
    rw [List.takeWhile_append_of_pos hall, List.takeWhile_cons_of_neg (by decide),
      List.append_nil]
  have hdrop : (name ++ ':' :: value).dropWhile (· ≠ ':') = ':' :: value := by
    rw [List.dropWhile_append_of_pos hall, List.dropWhile_cons_of_neg (by decide)]
  cases hread : readLength (Text.trim value) <;> simp only [lineLength, htake, hdrop, hread]

lemma lineLength_eq_ok_iff {content : List Char} {said : Option Nat} :
    lineLength content = .ok said ↔ Says content said := by
  constructor
  · intro h
    by_cases hcolon : ':' ∈ content
    · obtain ⟨name, value, rfl, hname⟩ := List.eq_append_cons_of_mem hcolon
      rw [lineLength_colon hname] at h
      split at h
      case isTrue hlength =>
        split at h
        case h_1 n hread =>
          cases h
          exact .length hname (isLengthName_iff.mp hlength) (holds_trim value)
            (readLength_eq_ok_iff.mp hread)
        case h_2 => cases h
      case isFalse hlength =>
        cases h
        exact .other hname fun hname => hlength (isLengthName_iff.mpr hname)
    · have hnone : content.dropWhile (· ≠ ':') = [] := by
        rw [List.dropWhile_eq_nil_iff]
        intro c hc
        exact decide_eq_true fun heq => hcolon (heq ▸ hc)
      simp only [lineLength, hnone] at h
      cases h
  · rintro (⟨hname, hlength, hholds, hword⟩ | ⟨hname, hother⟩)
    · rw [lineLength_colon hname, if_pos (isLengthName_iff.mpr hlength),
        hholds.trim_eq hword.isBlank, readLength_eq_ok_iff.mpr hword]
    · rw [lineLength_colon hname, if_neg fun hlength => hother (isLengthName_iff.mp hlength)]

end Lengths

/-! ### Lines and their bytes -/

/-- Of all characters, only a line feed has a byte that is one. -/
lemma eq_feed_of_mem {c : Char} (h : 0x0A ∈ String.utf8EncodeChar c) : c = '\n' := by
  have hbyte {n : Nat} (hn : 128 ≤ n) (hsize : n < 256) : (0x0A : UInt8) ≠ UInt8.ofNat n := by
    intro heq
    have hnat := congrArg UInt8.toNat heq
    rw [UInt8.toNat_ofNat_of_lt' hsize] at hnat
    exact absurd hnat (by simp; omega)
  obtain ⟨v, hv⟩ : ∃ v, c.val.toNat = v := ⟨_, rfl⟩
  simp only [String.utf8EncodeChar, hv] at h
  split at h
  case isTrue hone =>
    have heq := congrArg UInt8.toNat (List.mem_singleton.mp h)
    rw [UInt8.toNat_ofNat_of_lt' (Nat.lt_of_le_of_lt hone (by decide))] at heq
    exact Char.toNat_inj.mp (hv.trans heq.symm)
  case isFalse =>
    exfalso
    split at h
    case isTrue =>
      simp only [List.mem_cons, List.not_mem_nil, or_false] at h
      rcases h with h | h <;> exact hbyte (by omega) (by omega) h
    case isFalse =>
      split at h <;> simp only [List.mem_cons, List.not_mem_nil, or_false] at h
      · rcases h with h | h | h <;> exact hbyte (by omega) (by omega) h
      · rcases h with h | h | h | h <;> exact hbyte (by omega) (by omega) h

namespace Line

lemma bytes_eq (l : Line) : l.bytes = l.text.flatMap String.utf8EncodeChar ++ [0x0A] := by
  rw [bytes, Json.utf8_ofList, List.flatMap_append]
  rfl

lemma feed_notMem (l : Line) : 0x0A ∉ l.text.flatMap String.utf8EncodeChar := by
  intro h
  obtain ⟨c, hc, hmem⟩ := List.mem_flatMap.mp h
  exact l.no_feed (eq_feed_of_mem hmem ▸ hc)

/-- Bytes up to a line feed that are UTF-8 are those of a line. -/
lemma exists_of_bytes {bytes : List UInt8} (hfeed : 0x0A ∉ bytes)
    (h : Text.Utf8.fault? (bytes ++ [0x0A]) = none) : ∃ l : Line, l.bytes = bytes ++ [0x0A] := by
  obtain ⟨cs, hcs⟩ := Json.fault?_eq_none_iff.mp h
  rw [Json.utf8_ofList] at hcs
  rcases List.eq_nil_or_concat' cs with rfl | ⟨text, c, rfl⟩
  · simp at hcs
  rw [List.flatMap_append, List.flatMap_singleton] at hcs
  have hlast : 0x0A ∈ String.utf8EncodeChar c := by
    have hsome : String.utf8EncodeChar c ≠ [] := by
      exact String.utf8EncodeChar_ne_nil
    have hlast := congrArg List.getLast? hcs
    rw [List.getLast?_concat, List.getLast?_append_of_ne_nil _ hsome] at hlast
    exact List.mem_of_getLast? hlast.symm
  obtain rfl := eq_feed_of_mem hlast
  obtain ⟨rfl, -⟩ := List.append_inj' hcs rfl
  refine ⟨⟨text, ?_⟩, ?_⟩
  · intro hmem
    exact hfeed (List.mem_flatMap.mpr ⟨_, hmem, List.mem_singleton.mpr rfl⟩)
  · rw [bytes_eq]

/-- Returns at the end of a line are no part of its content, nor is its feed. -/
lemma endLine_eq (l : Line) (length : Option Nat) :
    endLine l.bytes.reverse length =
      if l.content = [] then beginBody length
      else match lineLength l.content with
        | .error f => (start, some (.fault f))
        | .ok found => (.line [] (found <|> length) false, none) := by
  have hcontent : Text.dropEnd (fun c => c = '\r' || c = '\n') (l.text ++ ['\n']) =
      l.content := List.rdropWhile_concat_pos _ _ _ rfl
  simp only [endLine, List.reverse_reverse, bytes, Json.fault?_utf8, Json.fromUTF8?_utf8,
    Option.getD_some, String.toList_ofList, hcontent]
  cases l.content <;> rfl

/-- A line is taken to its end. -/
lemma feed (l : Line) (more : List UInt8) (length : Option Nat) (first : Bool) :
    (Decoder.line [] length first).feed (l.bytes ++ more) =
      if l.content = [] then
        match beginBody length with
        | (d, some r) => (d, some r, more)
        | (d, none) => d.feed more
      else match lineLength l.content with
        | .error f => (start, some (.fault f), more)
        | .ok found => (Decoder.line [] (found <|> length) false).feed more := by
  have hline := feed_wholeLine l.feed_notMem more length first
  have hreverse : 0x0A :: (l.text.flatMap String.utf8EncodeChar).reverse = l.bytes.reverse := by
    rw [bytes_eq, List.reverse_append]
    rfl
  rw [bytes_eq, List.append_assoc, List.singleton_append, hline, hreverse, endLine_eq]
  by_cases hblank : l.content = []
  · rcases beginBody length with ⟨d, _ | r⟩ <;> simp only [hblank, if_true]
  · cases lineLength l.content <;> simp only [hblank, if_false]

end Line

/-! ### Reads of streams -/

section Reads

variable {length found : Option Nat} {stream body rest read : List UInt8} {d : Decoder} {r : Read}

lemma Says.ne_nil {content : List Char} (h : Says content found) : content ≠ [] := by
  rintro rfl
  generalize hnil : ([] : List Char) = content at h
  cases h <;> simp at hnil

/-- A frame is read to its end. -/
lemma FramedAfter.feed (h : FramedAfter length stream body rest) (first : Bool) :
    (Decoder.line [] length first).feed stream = (start, some (close body), rest) := by
  obtain ⟨lines, said, blank, rfl, hlines, hblank, hlast, hsize⟩ := h
  induction hlines generalizing length first with
  | nil =>
    obtain rfl : length = some body.length := by
      cases length with
      | none => cases hlast
      | some n => exact hlast
    rw [List.flatMap_nil, List.nil_append, List.append_assoc, blank.feed, if_pos hblank]
    exact feed_begun hsize rest
  | @cons l n lines said hl _ ih =>
    rw [getLast?_reduceOption] at hlast
    have hrest := ih false hlast
    rw [List.flatMap_cons, List.append_assoc, List.append_assoc, List.append_assoc, l.feed,
      if_neg hl.ne_nil, lineLength_eq_ok_iff.mpr hl]
    rw [List.append_assoc, List.append_assoc] at hrest
    exact hrest

/-- No message has an empty body. -/
lemma close_nil : ∃ e, close [] = .fault (.badBody e) := ⟨_, rfl⟩

/-- The end of a line gives no message. -/
lemma fault_of_endLine (h : endLine read length = (d, some r)) : ∃ f, r = .fault f := by
  simp only [endLine, beginBody] at h
  obtain ⟨e, hclose⟩ := close_nil
  grind

/-- A stream that ends in a header line has been read in vain. -/
lemma finish_line (h : read ≠ []) (length : Option Nat) (first : Bool) :
    ∃ f, (Decoder.line read length first).finish = .fault f := by
  cases read with
  | nil => exact absurd rfl h
  | cons b read =>
    rw [finish]
    · split
      case h_1 d r hend => exact fault_of_endLine hend
      case h_2 => exact ⟨_, rfl⟩
      case h_3 => exact ⟨_, rfl⟩
    · nofun
    · nofun

/-- So has one that ends in a body. -/
lemma next_body_of_lt {bytes : List UInt8} {left : Nat} (h : bytes.length < left) :
    (Decoder.body read left).next bytes = (.fault .endInBody, []) := by
  induction bytes generalizing read left with
  | nil => rfl
  | cons b bytes ih =>
    rw [List.length_cons] at h
    rw [next, Decoder.feed, push, if_neg (by omega)]
    exact ih (by omega)

/-- After a blank line comes a body, or the read fails. -/
lemma next_blank {l : Line} (hl : l.content = []) (length : Option Nat) (first : Bool)
    (more : List UInt8) :
    (∃ body rest, FramedAfter length (l.bytes ++ more) body rest) ∨
      ∃ f, ((Decoder.line [] length first).next (l.bytes ++ more)).1 = .fault f := by
  rw [next, l.feed, if_pos hl]
  cases length with
  | none => exact .inr ⟨_, rfl⟩
  | some n =>
    by_cases hsize : maxBody < n
    · right
      rw [beginBody, if_pos hsize]
      exact ⟨_, rfl⟩
    by_cases hmore : more.length < n
    · right
      rw [beginBody, if_neg hsize, if_neg (by omega)]
      exact ⟨_, congrArg Prod.fst (next_body_of_lt hmore)⟩
    · left
      obtain ⟨body, rest, rfl, rfl⟩ : ∃ body rest, more = body ++ rest ∧ body.length = n :=
        ⟨more.take n, more.drop n, (List.take_append_drop n more).symm, by
          rw [List.length_take]
          omega⟩
      exact ⟨body, rest, .blank hl (Nat.le_of_not_lt hsize)⟩

/-- A stream begins with the rest of a frame, or the read fails, or there is nothing to read. -/
lemma next_cases (length : Option Nat) (first : Bool) (stream : List UInt8) :
    (∃ body rest, FramedAfter length stream body rest) ∨
      (∃ f, ((Decoder.line [] length first).next stream).1 = .fault f) ∨
      first = true ∧ stream = [] := by
  induction hsize : stream.length using Nat.strongRecOn generalizing length first stream with
  | ind size ih =>
    by_cases hfeed : 0x0A ∈ stream
    · obtain ⟨bytes, more, rfl, hbytes⟩ := List.eq_append_cons_of_mem hfeed
      cases htext : Text.Utf8.fault? (bytes ++ [0x0A]) with
      | some fault =>
        right; left
        rw [next, feed_wholeLine hbytes, endLine, List.reverse_cons, List.reverse_reverse]
        simp only [htext]
        exact ⟨_, rfl⟩
      | none =>
        obtain ⟨l, hl⟩ := Line.exists_of_bytes hbytes htext
        have hstream : bytes ++ 0x0A :: more = l.bytes ++ more := by
          rw [hl, List.append_assoc, List.singleton_append]
        rw [hstream]
        by_cases hblank : l.content = []
        · rcases next_blank hblank length first more with hframed | hfault
          · exact .inl hframed
          · exact .inr (.inl hfault)
        have hnext : (Decoder.line [] length first).next (l.bytes ++ more) =
            match lineLength l.content with
            | .error f => (.fault f, more)
            | .ok found => (Decoder.line [] (found <|> length) false).next more := by
          rw [next, l.feed, if_neg hblank]
          cases lineLength l.content <;> rfl
        rw [hnext]
        cases hsaid : lineLength l.content with
        | error f => exact .inr (.inl ⟨f, rfl⟩)
        | ok found =>
          have hless : more.length < size := by
            rw [← hsize, List.length_append, List.length_cons]
            omega
          rcases ih more.length hless (found <|> length) false more rfl with
            ⟨body, rest, hframed⟩ | hfault | ⟨hfirst, -⟩
          · exact .inl ⟨body, rest, hframed.cons (lineLength_eq_ok_iff.mp hsaid)⟩
          · exact .inr (.inl hfault)
          · cases hfirst
    · have hline := feed_line hfeed [] [] length first
      rw [List.append_nil, List.append_nil] at hline
      right
      rw [next, hline]
      cases hnil : stream with
      | cons b stream =>
        left
        exact finish_line (by simp) length first
      | nil =>
        cases first with
        | true => exact .inr ⟨rfl, rfl⟩
        | false => exact .inl ⟨_, rfl⟩

/-! What a read of a stream gives -/

variable {v : Json} {e : Json.ReadError}

lemma Framed.next (h : Framed stream body rest) :
    Decoder.start.next stream = (close body, rest) := by
  rw [Decoder.next, start, (framedAfter_none.mpr h).feed]

lemma close_eq_message_iff : close body = .message v ↔ Json.parse body = .ok v := by
  rw [close]
  split
  case h_1 u hparse => rw [Read.message.injEq, hparse, Except.ok.injEq]
  case h_2 e hparse =>
    rw [hparse]
    simp

lemma close_of_error (h : Json.parse body = .error e) : close body = .fault (.badBody e) := by
  rw [close, h]

lemma close_ne_ended (body : List UInt8) : close body ≠ .ended := by
  rw [close]
  intro hended
  split at hended <;> cases hended

lemma next_start_eq_message_iff :
    (Decoder.start.next stream).1 = .message v ↔
      ∃ body rest, Framed stream body rest ∧ Json.parse body = .ok v := by
  constructor
  · intro h
    rcases next_cases none true stream with ⟨body, rest, hframed⟩ | ⟨f, hfault⟩ | ⟨-, rfl⟩
    · have hframed := framedAfter_none.mp hframed
      rw [hframed.next, close_eq_message_iff] at h
      exact ⟨body, rest, hframed, h⟩
    · exact absurd (h.symm.trans hfault) nofun
    · cases h
  · rintro ⟨body, rest, hframed, hparse⟩
    rw [hframed.next, close_eq_message_iff]
    exact hparse

lemma next_start_eq_ended_iff : (Decoder.start.next stream).1 = .ended ↔ stream = [] := by
  constructor
  · intro h
    rcases next_cases none true stream with ⟨body, rest, hframed⟩ | ⟨f, hfault⟩ | ⟨-, rfl⟩
    · rw [(framedAfter_none.mp hframed).next] at h
      exact absurd h (close_ne_ended body)
    · exact absurd (h.symm.trans hfault) nofun
    · rfl
  · rintro rfl
    rfl

end Reads

/--
A read of a stream, in whatever chunks it comes, gives a message exactly when the stream begins with
a frame whose body is JSON, the end exactly when the stream is empty, and a fault otherwise. It
leaves what stands after the frame, also when the body is not JSON: the next read begins there.
-/
theorem Chunked.read_framed (chunks : List (List UInt8)) :
    ∃ r left, (⟨.start, chunks⟩ : Chunked).read = (r, ⟨.start, left⟩) ∧
      (∀ v, r = .message v ↔
        ∃ body rest, Framed chunks.flatten body rest ∧ Json.parse body = .ok v) ∧
      (r = .ended ↔ chunks.flatten = []) ∧
      ((∃ f, r = .fault f) ↔ chunks.flatten ≠ [] ∧
        ¬∃ body rest v, Framed chunks.flatten body rest ∧ Json.parse body = .ok v) ∧
      ∀ body rest, Framed chunks.flatten body rest →
        left.flatten = rest ∧ ∀ e, Json.parse body = .error e → r = .fault (.badBody e) := by
  obtain ⟨left, hread, hleft⟩ := takeChunks_eq .start chunks
  refine ⟨_, left, hread, fun v => next_start_eq_message_iff, next_start_eq_ended_iff, ?_, ?_⟩
  · rw [Ne, ← next_start_eq_ended_iff]
    constructor
    · rintro ⟨f, hfault⟩
      refine ⟨by rw [hfault]; nofun, ?_⟩
      rintro ⟨body, rest, v, hframed, hparse⟩
      have hmessage := next_start_eq_message_iff.mpr ⟨body, rest, hframed, hparse⟩
      exact absurd (hmessage.symm.trans hfault) nofun
    · rintro ⟨hended, hnone⟩
      cases hr : (Decoder.start.next chunks.flatten).1 with
      | message v =>
        obtain ⟨body, rest, hframed⟩ := next_start_eq_message_iff.mp hr
        exact absurd ⟨body, rest, v, hframed⟩ hnone
      | ended => exact absurd hr hended
      | fault f => exact ⟨f, rfl⟩
  · intro body rest hframed
    rw [hleft, hframed.next]
    exact ⟨rfl, fun e => close_of_error⟩

end Frame

end LanguageClient
