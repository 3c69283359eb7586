import LanguageClient.Json.Reader
import LanguageClient.Proofs.Text.Utf8

/-!
# Compact JSON text read back

The text of a value is read as the value, if its numbers are integers and its containers are nested
no deeper than the reader allows. A number has no end of its own: the byte after it, or the end of
the text, shows that it is complete. `Reader.Stands` is where a reader may stand after a value, and
`Legible` says that the text of a value leads there, whatever containers the value stands in.
-/

namespace LanguageClient.Json

/-- Every number is an integer, and containers are nested at most so deep. -/
inductive Plain : Nat → Json → Prop
  | null {depth : Nat} : Plain depth .null
  | bool {depth : Nat} (b : Bool) : Plain depth (.bool b)
  /-- The integers of a signed or unsigned 64-bit word. -/
  | int {depth : Nat} {n : Int} (low : -0x8000000000000000 ≤ n) (high : n < 0x10000000000000000) :
    Plain depth (.int n)
  | str {depth : Nat} (s : String) : Plain depth (.str s)
  | arr {depth : Nat} {items : List Json} (hitems : ∀ v ∈ items, Plain depth v) :
    Plain (depth + 1) (.arr items)
  | obj {depth : Nat} {fields : Table Json} (hsorted : fields.Sorted)
    (hfields : ∀ e ∈ fields, Plain depth e.2) : Plain (depth + 1) (.obj fields)

/-- Arrays inside one another. -/
lemma Plain.nested (depth : Nat) : Plain depth ((fun v => .arr [v])^[depth] .null) := by
  induction depth with
  | zero => exact .null
  | succ depth ih =>
    rw [Function.iterate_succ_apply']
    refine .arr fun v hv => ?_
    rwa [List.mem_singleton.mp hv]

lemma length_encode_nested (depth : Nat) :
    ((fun v => Json.arr [v])^[depth] .null).encode.length = 2 * depth + 4 := by
  induction depth with
  | zero => rfl
  | succ depth ih =>
    rw [Function.iterate_succ_apply', encode, encodeItems, List.length_append, List.length_cons, ih,
      List.length_singleton]
    omega

namespace Reader

/-- The reader after some bytes, if it takes them all. -/
def feed (r : Reader) : List UInt8 → Option Reader
  | [] => some r
  | b :: rest =>
    match r.step b with
    | .more r => r.feed rest
    | _ => none

variable {r r' : Reader} {text rest : List UInt8} {b : UInt8} {v : Json} {stack : List Frame}

lemma feed_cons (h : r.step b = .more r') : r.feed (b :: rest) = r'.feed rest := by
  rw [feed, h]

lemma feed_append (h : r.feed text = some r') : r.feed (text ++ rest) = r'.feed rest := by
  induction text generalizing r with
  | nil =>
    obtain rfl := Option.some.inj h
    rfl
  | cons b text ih =>
    rw [feed] at h
    rw [List.cons_append, feed]
    split at h
    case h_1 next hnext => exact ih h
    case h_2 => cases h

/-- Bytes that are taken are read, wherever the text begins. -/
lemma run_of_feed (h : r.feed text = some r') (hv : r'.finish = .ok v) (place : Position) :
    r.run place text = .ok v := by
  induction text generalizing r place with
  | nil =>
    obtain rfl := Option.some.inj h
    rw [run, hv]
    rfl
  | cons b text ih =>
    rw [feed] at h
    split at h
    case h_1 next hnext =>
      rw [run, hnext]
      exact ih h _
    case h_2 => cases h

/-! ### The end of a value -/

/-- The bytes that may follow a value in a container. -/
def isSeparator (b : UInt8) : Bool := b = 0x2C || b = 0x5D || b = 0x7D

lemma isSeparator_iff : isSeparator b = true ↔ b = 0x2C ∨ b = 0x5D ∨ b = 0x7D := by
  simp [isSeparator, or_assoc]

/-- A reader that has read a value inside the given containers, though a number may lack the byte
that shows it complete. -/
inductive Stands (stack : List Frame) (v : Json) : Reader → Prop
  | complete : Stands stack v (complete v stack)
  | number {negative : Bool} {n : Numeral} (hvalue : n.value negative = .ok v)
    (hends : ∀ b, isSeparator b = true → n.step b = .ended) :
    Stands stack v ⟨stack, .number negative n⟩

lemma step_complete (v : Json) (stack : List Frame) (b : UInt8) :
    (complete v stack).step b = between (complete v stack).stack (complete v stack).mode b := by
  cases stack with
  | nil => rfl
  | cons frame rest => cases frame <;> rfl

/-- The separator after a value acts as on the value complete. -/
lemma Stands.feed (h : r.Stands stack v) (hb : isSeparator b = true) :
    r.feed (b :: rest) = (Reader.complete v stack).feed (b :: rest) := by
  cases h with
  | complete => rfl
  | @number negative n hvalue hends =>
    have hstep : step ⟨stack, .number negative n⟩ b = (Reader.complete v stack).step b := by
      rw [step_complete]
      simp only [step, hends b hb, hvalue]
    rw [Reader.feed, Reader.feed, hstep]

lemma Stands.finish (h : r.Stands [] v) : r.finish = .ok v := by
  cases h with
  | complete => rfl
  | number hvalue hends => simp [Reader.finish, hvalue, Reader.complete]

end Reader

/-- Whether a value may come next. -/
def Mode.takesValue : Mode → Bool
  | .value | .firstItem | .item => true
  | _ => false

/-- The text of a value is read as the value, inside the given containers. -/
def Legible (stack : List Frame) (v : Json) : Prop :=
  ∀ m : Mode, m.takesValue = true →
    ∃ r, Reader.feed ⟨stack, m⟩ v.encode = some r ∧ r.Stands stack v

namespace Reader

variable {stack : List Frame} {m : Mode} {b : UInt8} {rest : List UInt8}

/-- The first byte of a value. -/
lemma step_of_takesValue (hm : m.takesValue = true) (hblank : isBlank b = false)
    (hb : b ≠ 0x5D) : step ⟨stack, m⟩ b = beginValue stack b := by
  cases m with
  | value | firstItem | item => simp [step, between, hblank, token, hb]
  | _ => cases hm

/-! ### Integers -/

/-- The byte of a decimal digit. -/
def digitByte (d : Nat) : UInt8 := (Nat.digitChar d).toNat.toUInt8

lemma isDigit_digitByte : ∀ d < 10, isDigit (digitByte d) = true := by decide

lemma digitValue_digitByte : ∀ d < 10, digitValue (digitByte d) = d := by decide

lemma isBlank_digitByte : ∀ d < 10, isBlank (digitByte d) = false := by decide

lemma digitByte_ne_bracket : ∀ d < 10, digitByte d ≠ 0x5D := by decide

/-- The digits of a number, after whatever a leading digit may follow. -/
lemma feed_digits {r : Reader} {negative : Bool} {n : Nat}
    (hfirst : ∀ d, 0 < d → d < 10 →
      r.step (digitByte d) = .more ⟨stack, .number negative (.whole d)⟩)
    (hpos : 0 < n) (hmax : n ≤ maxSignificand) :
    r.feed (ascii (Nat.toDigits 10 n)) = some ⟨stack, .number negative (.whole n)⟩ := by
  induction n using Nat.strongRecOn with
  | ind n ih =>
    by_cases hn : n < 10
    · rw [Nat.toDigits_of_lt_base hn]
      exact feed_cons (hfirst n hpos hn)
    · have hlead := ih (n / 10) (by omega) (by omega) (by omega)
      have hlast : n % 10 < 10 := Nat.mod_lt n (by decide)
      rw [Nat.toDigits_of_base_le (by decide) (by omega), ascii_append, feed_append hlead]
      refine feed_cons (b := digitByte (n % 10)) ?_
      have hvalue : n / 10 * 10 + n % 10 = n := Nat.div_add_mod' n 10
      simp only [step, Numeral.step, isDigit_digitByte _ hlast, digitValue_digitByte _ hlast,
        hvalue, hmax, if_true]

lemma zero_ends (h : isSeparator b = true) : Numeral.zero.step b = .ended := by
  rcases isSeparator_iff.mp h with rfl | rfl | rfl <;> rfl

lemma whole_ends {n : Nat} (h : isSeparator b = true) : (Numeral.whole n).step b = .ended := by
  rcases isSeparator_iff.mp h with rfl | rfl | rfl <;> rfl

end Reader

open Reader in
lemma legible_int {n : Int} (hlow : -0x8000000000000000 ≤ n) (hhigh : n < 0x10000000000000000)
    (stack : List Frame) : Legible stack (.int n) := by
  intro m hm
  rcases Int.lt_trichotomy n 0 with hneg | rfl | hpos
  · -- A minus sign, and then digits of which the first is not zero.
    have hsign : step ⟨stack, m⟩ 0x2D = .more ⟨stack, .number true .sign⟩ :=
      step_of_takesValue hm rfl (by decide)
    have hfirst : ∀ d, 0 < d → d < 10 → step ⟨stack, .number true .sign⟩ (digitByte d) =
        .more ⟨stack, .number true (.whole d)⟩ := by
      intro d hd hd10
      have hzero : digitByte d ≠ 0x30 := by
        interval_cases d <;> decide
      simp only [step, Numeral.step, hzero, if_false, isDigit_digitByte d hd10,
        digitValue_digitByte d hd10, if_true]
    have hdigits := feed_digits hfirst (n := n.natAbs) (by omega) (by unfold maxSignificand; omega)
    refine ⟨⟨stack, .number true (.whole n.natAbs)⟩, ?_, .number ?_ fun b => whole_ends⟩
    · rw [encode, intText, if_pos hneg]
      exact (feed_cons hsign).trans hdigits
    · have hsmall : n.natAbs ≤ 0x8000000000000000 := by omega
      have hvalue : -(n.natAbs : Int) = n := by omega
      simp only [Numeral.value, Bool.not_true, Bool.false_eq_true, if_false, hsmall, if_true,
        hvalue]
  · refine ⟨⟨stack, .number false .zero⟩, ?_, .number rfl fun b => zero_ends⟩
    exact feed_cons (step_of_takesValue hm rfl (by decide))
  · have hfirst : ∀ d, 0 < d → d < 10 → step ⟨stack, m⟩ (digitByte d) =
        .more ⟨stack, .number false (.whole d)⟩ := by
      intro d hd hd10
      rw [step_of_takesValue hm (isBlank_digitByte d hd10) (digitByte_ne_bracket d hd10)]
      interval_cases d <;> rfl
    have hdigits := feed_digits hfirst (n := n.natAbs) (by omega) (by unfold maxSignificand; omega)
    refine ⟨⟨stack, .number false (.whole n.natAbs)⟩, ?_, .number ?_ fun b => whole_ends⟩
    · rw [encode, intText, if_neg (by omega)]
      exact hdigits
    · have hvalue : (n.natAbs : Int) = n := by omega
      simp [Numeral.value, hvalue]

/-! ### Strings -/

lemma hexValue_hexDigit : ∀ n < 16, hexValue (hexDigit n) = some n := by decide

namespace Literal

variable {read : List UInt8} {b : UInt8}

/-- A control character comes back from its hexadecimal escape. -/
lemma closeHex_control (h : b < 0x20) :
    closeHex read [hexDigit (b.toNat % 16), hexDigit (b.toNat / 16), 0x30, 0x30] .none =
      .more ⟨b :: read, .none⟩ := by
  have hb : b.toNat < 32 := h
  have hunit : hexUnit [hexDigit (b.toNat % 16), hexDigit (b.toNat / 16), 0x30, 0x30] =
      some b.toNat := by
    have hlow := hexValue_hexDigit (b.toNat % 16) (by omega)
    have hhigh := hexValue_hexDigit (b.toNat / 16) (by omega)
    have hzero : hexValue 0x30 = some 0 := rfl
    simp only [hexUnit, hlow, hhigh, hzero, Option.bind_eq_bind, Option.bind_some, Option.pure_def]
    congr 1
    omega
  have hencode : utf8Encode b.toNat = [b] := by
    rw [utf8Encode, if_pos (by omega)]
    simp
  have hlower : ¬0xDC00 ≤ b.toNat := by omega
  have hupper : ¬0xD800 ≤ b.toNat := by omega
  simp [closeHex, hunit, hencode, hlower, hupper]

end Literal

namespace Reader

/-- Each byte comes back from what is written for it. -/
lemma feed_escape (stack : List Frame) (isKey : Bool) (read : List UInt8) (b : UInt8) :
    feed ⟨stack, .string isKey ⟨read, .none⟩⟩ (escape b) =
      some ⟨stack, .string isKey ⟨b :: read, .none⟩⟩ := by
  unfold escape
  split_ifs with hquote hslash hback hfeed hline hreturn htab hcontrol
  · subst hquote
    rfl
  · subst hslash
    rfl
  · subst hback
    rfl
  · subst hfeed
    rfl
  · subst hline
    rfl
  · subst hreturn
    rfl
  · subst htab
    rfl
  · simp [feed, step, Literal.step, Literal.closeHex_control hcontrol]
  · simp [feed, step, Literal.step, hquote, hslash, hcontrol]

lemma feed_escapes (stack : List Frame) (isKey : Bool) (read bytes : List UInt8) :
    feed ⟨stack, .string isKey ⟨read, .none⟩⟩ (bytes.flatMap escape) =
      some ⟨stack, .string isKey ⟨bytes.reverse ++ read, .none⟩⟩ := by
  induction bytes generalizing read with
  | nil => rfl
  | cons b bytes ih =>
    rw [List.flatMap_cons, feed_append (feed_escape stack isKey read b), ih]
    simp

/-- A string comes back from between its quotes, as a key or as a value. -/
lemma feed_literal (stack : List Frame) (isKey : Bool) (s : String) :
    feed ⟨stack, .string isKey .start⟩ ((utf8 s).flatMap escape ++ [0x22]) =
      some (if isKey then ⟨stack, .colon s⟩ else complete (.str s) stack) := by
  have hbytes := feed_escapes stack isKey [] (utf8 s)
  rw [List.append_nil] at hbytes
  have htext : textOf (utf8 s).reverse = some s := by
    rw [textOf, List.reverse_reverse, fromUTF8?_utf8]
  have hclose : Literal.close ⟨(utf8 s).reverse, .none⟩ = .ended (utf8 s).reverse := by
    simp only [Literal.close, List.reverse_reverse, fault?_utf8]
  have hend : step ⟨stack, .string isKey ⟨(utf8 s).reverse, .none⟩⟩ 0x22 =
      .more (if isKey then ⟨stack, .colon s⟩ else complete (.str s) stack) := by
    simp only [step, Literal.step, if_true, hclose, htext]
    split <;> rfl
  exact (feed_append hbytes).trans (feed_cons hend)

lemma feed_key {m : Mode} (hm : m = .firstKey ∨ m = .key) (stack : List Frame) (s : String) :
    feed ⟨stack, m⟩ (quoted s) = some ⟨stack, .colon s⟩ := by
  have hquote : step ⟨stack, m⟩ 0x22 = .more ⟨stack, .string true .start⟩ := by
    rcases hm with rfl | rfl <;> rfl
  exact (feed_cons hquote).trans (feed_literal stack true s)

end Reader

open Reader

lemma legible_str (s : String) (stack : List Frame) : Legible stack (.str s) := by
  intro m hm
  have hquote : step ⟨stack, m⟩ 0x22 = .more ⟨stack, .string false .start⟩ :=
    step_of_takesValue hm rfl (by decide)
  exact ⟨_, (feed_cons hquote).trans (feed_literal stack false s), .complete⟩

lemma legible_null (stack : List Frame) : Legible stack .null := by
  intro m hm
  have hfirst : step ⟨stack, m⟩ 0x6E = .more ⟨stack, .word [0x75, 0x6C, 0x6C] .null⟩ :=
    step_of_takesValue hm rfl (by decide)
  exact ⟨_, feed_cons hfirst, .complete⟩

lemma legible_bool (b : Bool) (stack : List Frame) : Legible stack (.bool b) := by
  intro m hm
  cases b with
  | true =>
    have hfirst : step ⟨stack, m⟩ 0x74 = .more ⟨stack, .word [0x72, 0x75, 0x65] (.bool true)⟩ :=
      step_of_takesValue hm rfl (by decide)
    exact ⟨_, feed_cons hfirst, .complete⟩
  | false =>
    have hfirst : step ⟨stack, m⟩ 0x66 =
        .more ⟨stack, .word [0x61, 0x6C, 0x73, 0x65] (.bool false)⟩ :=
      step_of_takesValue hm rfl (by decide)
    exact ⟨_, feed_cons hfirst, .complete⟩

/-! ### Containers -/

variable {stack : List Frame}

lemma encodeItems_head (items : List Json) :
    ∃ b rest, encodeItems items = b :: rest ∧ isSeparator b = true := by
  cases items with
  | nil => exact ⟨_, _, rfl, rfl⟩
  | cons v rest => exact ⟨_, _, rfl, rfl⟩

lemma encodeFields_head (fields : Table Json) :
    ∃ b rest, encodeFields fields = b :: rest ∧ isSeparator b = true := by
  cases fields with
  | nil => exact ⟨_, _, rfl, rfl⟩
  | cons e rest => exact ⟨_, _, rfl, rfl⟩

/-- The items after the first are read onto those before them. -/
lemma feed_items {items : List Json} (acc : List Json)
    (h : ∀ v ∈ items, ∀ acc, Legible (.arr acc :: stack) v) :
    feed ⟨.arr acc :: stack, .separator⟩ (encodeItems items) =
      some (complete (.arr (acc.reverse ++ items)) stack) := by
  induction items generalizing acc with
  | nil =>
    have hclose : step ⟨.arr acc :: stack, .separator⟩ 0x5D =
        .more (complete (.arr acc.reverse) stack) := rfl
    rw [encodeItems, feed_cons hclose, List.append_nil]
    rfl
  | cons v rest ih =>
    obtain ⟨r, hr, hstands⟩ := h v (List.mem_cons_self ..) acc .item rfl
    obtain ⟨b, tail, htail, hb⟩ := encodeItems_head rest
    have hcomma : step ⟨.arr acc :: stack, .separator⟩ 0x2C =
        .more ⟨.arr acc :: stack, .item⟩ := rfl
    rw [encodeItems, List.cons_append, feed_cons hcomma, feed_append hr, htail, hstands.feed hb,
      ← htail]
    have hrest := ih (v :: acc) fun u hu => h u (List.mem_cons_of_mem _ hu)
    rw [List.reverse_cons, List.append_assoc] at hrest
    exact hrest

/-- A member of an object, from its name to what follows its value. -/
lemma feed_member {m : Mode} {acc : Table Json} {key : String} {v : Json} {rest : Table Json}
    (hm : m = .firstKey ∨ m = .key) (hv : Legible (.member acc key :: stack) v)
    (hkey : ∀ e ∈ acc, e.1 < key) :
    feed ⟨.obj acc :: stack, m⟩ (quoted key ++ 0x3A :: encode v ++ encodeFields rest) =
      feed ⟨.obj (acc ++ [(key, v)]) :: stack, .separator⟩ (encodeFields rest) := by
  obtain ⟨r, hr, hstands⟩ := hv .value rfl
  obtain ⟨b, tail, htail, hb⟩ := encodeFields_head rest
  have hcolon : step ⟨.obj acc :: stack, .colon key⟩ 0x3A =
      .more ⟨.member acc key :: stack, .value⟩ := rfl
  rw [List.append_assoc, feed_append (feed_key hm _ key), List.cons_append, feed_cons hcolon,
    feed_append hr, htail, hstands.feed hb, ← htail, complete, Table.insert_of_lt hkey]

/-- The fields after the first are read onto those before them. -/
lemma feed_fields {fields : Table Json} (acc : Table Json) (hsorted : Table.Sorted (acc ++ fields))
    (h : ∀ e ∈ fields, ∀ acc, Legible (.member acc e.1 :: stack) e.2) :
    feed ⟨.obj acc :: stack, .separator⟩ (encodeFields fields) =
      some (complete (.obj (acc ++ fields)) stack) := by
  induction fields generalizing acc with
  | nil =>
    have hclose : step ⟨.obj acc :: stack, .separator⟩ 0x7D =
        .more (complete (.obj acc) stack) := rfl
    rw [encodeFields, feed_cons hclose, List.append_nil]
    rfl
  | cons e rest ih =>
    obtain ⟨key, v⟩ := e
    have hkey : ∀ e ∈ acc, e.1 < key := fun e he =>
      (List.pairwise_append.mp hsorted).2.2 e he (key, v) (List.mem_cons_self ..)
    have hcomma : step ⟨.obj acc :: stack, .separator⟩ 0x2C =
        .more ⟨.obj acc :: stack, .key⟩ := rfl
    have hv := h (key, v) (List.mem_cons_self ..) acc
    rw [encodeFields, List.cons_append, List.cons_append, feed_cons hcomma,
      feed_member (.inr rfl) hv hkey]
    have happend : acc ++ (key, v) :: rest = acc ++ [(key, v)] ++ rest := by simp
    rw [happend] at hsorted ⊢
    exact ih _ hsorted fun e he => h e (List.mem_cons_of_mem _ he)

/-- A value is read as itself wherever there is room for its depth. -/
theorem Plain.legible {depth : Nat} {v : Json} (h : Plain depth v)
    (hdepth : stack.length + depth < maxDepth) : Legible stack v := by
  induction h generalizing stack with
  | null => exact legible_null stack
  | bool b => exact legible_bool b stack
  | int low high => exact legible_int low high stack
  | str s => exact legible_str s stack
  | @arr depth items _ ih =>
    intro m hm
    have hroom : stack.length + 1 < maxDepth := by omega
    have hopen : step ⟨stack, m⟩ 0x5B = .more ⟨.arr [] :: stack, .firstItem⟩ := by
      rw [step_of_takesValue hm rfl (by decide)]
      simp [beginValue, hroom]
    have hitems (v : Json) (hv : v ∈ items) (acc : List Json) : Legible (.arr acc :: stack) v :=
      ih v hv (by simp only [List.length_cons]; omega)
    cases items with
    | nil => exact ⟨_, feed_cons hopen, .complete⟩
    | cons v rest =>
      refine ⟨_, ?_, .complete⟩
      obtain ⟨r, hr, hstands⟩ := hitems v (List.mem_cons_self ..) [] .firstItem rfl
      obtain ⟨b, tail, htail, hb⟩ := encodeItems_head rest
      rw [encode, List.cons_append, feed_cons hopen, feed_append hr, htail, hstands.feed hb,
        ← htail]
      exact feed_items [v] fun u hu => hitems u (List.mem_cons_of_mem _ hu)
  | @obj depth fields hsorted _ ih =>
    intro m hm
    have hroom : stack.length + 1 < maxDepth := by omega
    have hopen : step ⟨stack, m⟩ 0x7B = .more ⟨.obj [] :: stack, .firstKey⟩ := by
      rw [step_of_takesValue hm rfl (by decide)]
      simp [beginValue, hroom]
    have hfields (e : String × Json) (he : e ∈ fields) (acc : Table Json) :
        Legible (.member acc e.1 :: stack) e.2 :=
      ih e he (by simp only [List.length_cons]; omega)
    cases fields with
    | nil => exact ⟨_, feed_cons hopen, .complete⟩
    | cons e rest =>
      obtain ⟨key, v⟩ := e
      refine ⟨_, ?_, .complete⟩
      have hv := hfields (key, v) (List.mem_cons_self ..) []
      rw [encode, List.cons_append, List.cons_append, feed_cons hopen,
        feed_member (.inl rfl) hv nofun]
      exact feed_fields [(key, v)] hsorted fun e he => hfields e (List.mem_cons_of_mem _ he)

/-- The text of a value is read back as the value. -/
theorem Plain.parse_encode {depth : Nat} {v : Json} (h : Plain depth v)
    (hdepth : depth < maxDepth) :
    parse v.encode = .ok v := by
  have hlegible : Legible [] v := h.legible (by simpa using hdepth)
  obtain ⟨r, hr, hstands⟩ := hlegible .value rfl
  exact run_of_feed hr hstands.finish _

end LanguageClient.Json
