import LanguageClient.Glob.Match
import Mathlib.Data.List.Basic

/-!
# What globs match

A pattern matches the texts that its parts match one after another. The walk over a text keeps the
places that the parts so far lead to, and ends at the end of the text exactly when the pattern
matches it: `Pattern.isMatch_iff`.
-/

namespace LanguageClient.Glob

/-- The texts that a pattern stands for. -/
inductive Pattern.Matches : Pattern → List UInt8 → Prop
  | byte {s : ByteSet} {b : UInt8} : s.has b = true → Matches (.byte s) [b]
  | run (text : List UInt8) : Matches .run text
  | done : Matches (.seq []) []
  | next {p : Pattern} {parts : List Pattern} {text rest : List UInt8} :
      p.Matches text → Matches (.seq parts) rest → Matches (.seq (p :: parts)) (text ++ rest)
  | alt {p : Pattern} {branches : List Pattern} {text : List UInt8} :
      p ∈ branches → p.Matches text → Matches (.alt branches) text

/-! ### Places -/

namespace Places

variable {text : List UInt8} {places other : Places} {s : ByteSet} {seen : Bool} {k : Nat}

/-- A place is in a set of them. -/
def Has (places : Places) (k : Nat) : Prop := places[k]? = some true

lemma Has.lt (h : places.Has k) : k < places.length := (List.getElem?_eq_some_iff.mp h).1

lemma has_cons_succ {here : Bool} : Has (here :: places) (k + 1) ↔ places.Has k := Iff.rfl

lemma not_has_none : ¬(none text).Has k := by
  intro h
  cases k with
  | zero => cases h
  | succ k =>
    obtain ⟨b, -, hb⟩ := List.mem_map.mp (List.mem_of_getElem? (has_cons_succ.mp h))
    cases hb

lemma has_start : (start text).Has k ↔ k = 0 := by
  cases k with
  | zero => exact ⟨fun _ => rfl, fun _ => rfl⟩
  | succ k => exact ⟨fun h => absurd (has_cons_succ.mp h) (not_has_none (k := k + 1)), nofun⟩

lemma has_union (h : places.length = other.length) :
    (places.union other).Has k ↔ places.Has k ∨ other.Has k := by
  simp only [Has, union, List.getElem?_zipWith_eq_some, Bool.or_eq_true]
  constructor
  · rintro ⟨x, y, hx, hy, rfl | rfl⟩
    · exact .inl hx
    · exact .inr hy
  · rintro (hk | hk)
    · exact ⟨true, _, hk, List.getElem?_eq_getElem (h ▸ Has.lt hk), .inl rfl⟩
    · exact ⟨_, true, List.getElem?_eq_getElem (h ▸ Has.lt hk), hk, .inr rfl⟩

lemma has_advance : (places.advance s text).Has k ↔
    ∃ j b, k = j + 1 ∧ text[j]? = some b ∧ s.has b = true ∧ places.Has j := by
  cases k with
  | zero => simp [Has, advance]
  | succ k =>
    have hone : (places.advance s text).Has (k + 1) ↔
        ∃ b here, text[k]? = some b ∧ places[k]? = some here ∧ (here && s.has b) = true :=
      List.getElem?_zipWith_eq_some
    rw [hone]
    constructor
    · rintro ⟨b, here, hb, hhere, hboth⟩
      obtain ⟨rfl, hs⟩ := Bool.and_eq_true_iff.mp hboth
      exact ⟨k, b, rfl, hb, hs, hhere⟩
    · rintro ⟨j, b, hk, hb, hs, hj⟩
      obtain rfl := Nat.succ.inj hk
      exact ⟨b, true, hb, hj, by simp [hs]⟩

lemma has_spread : (places.spread seen).Has k ↔
    k < places.length ∧ (seen = true ∨ ∃ j ≤ k, places.Has j) := by
  induction places generalizing seen k with
  | nil => simp [spread, Has]
  | cons here rest ih =>
    cases k with
    | zero => simp [spread, Has]
    | succ k =>
      have hearlier : (∃ j ≤ k + 1, Has (here :: rest) j) ↔ here = true ∨ ∃ j ≤ k, Has rest j := by
        constructor
        · rintro ⟨_ | j, hle, hj⟩
          · exact .inl (Option.some.inj hj)
          · exact .inr ⟨j, Nat.le_of_succ_le_succ hle, hj⟩
        · rintro (rfl | ⟨j, hle, hj⟩)
          · exact ⟨0, Nat.zero_le _, rfl⟩
          · exact ⟨j + 1, Nat.succ_le_succ hle, hj⟩
      rw [spread, has_cons_succ, ih, hearlier, Bool.or_eq_true, or_assoc, List.length_cons,
        Nat.add_lt_add_iff_right]

@[simp] lemma length_spread : (places.spread seen).length = places.length := by
  induction places generalizing seen with
  | nil => rfl
  | cons here rest ih => simp [spread, ih]

end Places

/-! ### Walks -/

/-- The stretch of a text from one place to another is one that the pattern matches. -/
def Leads (matched : List UInt8 → Prop) (text : List UInt8) (j k : Nat) : Prop :=
  ∃ before part after, text = before ++ part ++ after ∧ before.length = j ∧
    (before ++ part).length = k ∧ matched part

/-- From places in a text to the places that what is matched leads to. -/
structure Walks (matched : List UInt8 → Prop) (text : List UInt8) (places next : Places) :
    Prop where
  length : next.length = text.length + 1
  has : ∀ k, next.Has k ↔ ∃ j, places.Has j ∧ Leads matched text j k

variable {text : List UInt8} {places middle last : Places} {p : Pattern} {parts : List Pattern}
  {j k : Nat}

lemma walks_byte (s : ByteSet) (h : places.length = text.length + 1) :
    Walks (Pattern.byte s).Matches text places (places.advance s text) where
  length := by simp [Places.advance, h]
  has k := by
    rw [Places.has_advance]
    constructor
    · rintro ⟨j, b, rfl, hb, hs, hj⟩
      obtain ⟨hlt, rfl⟩ := List.getElem?_eq_some_iff.mp hb
      exact ⟨j, hj, text.take j, [text[j]], text.drop (j + 1), by simp, by simp; omega,
        by simp; omega, .byte hs⟩
    · rintro ⟨j, hj, before, part, after, rfl, rfl, rfl, hmatch⟩
      cases hmatch with
      | byte hs => exact ⟨before.length, _, by simp, by simp, hs, hj⟩

lemma walks_run (h : places.length = text.length + 1) :
    Walks Pattern.run.Matches text places (places.spread false) where
  length := by simp [h]
  has k := by
    rw [Places.has_spread]
    constructor
    · rintro ⟨hk, hnever | ⟨j, hle, hj⟩⟩
      · cases hnever
      · have hpart := List.take_append_drop j (text.take k)
        rw [List.take_take, Nat.min_eq_left hle] at hpart
        exact ⟨j, hj, text.take j, (text.take k).drop j, text.drop k, by simp [hpart],
          by simp; omega, by simp [hpart]; omega, .run _⟩
    · rintro ⟨j, hj, before, part, after, rfl, rfl, rfl, -⟩
      have hlt : (before ++ part).length < places.length := by
        simp only [h, List.length_append]
        omega
      exact ⟨hlt, .inr ⟨_, by simp, hj⟩⟩

lemma walks_done (h : places.length = text.length + 1) :
    Walks (Pattern.seq []).Matches text places places where
  length := h
  has k := by
    constructor
    · intro hk
      have hlt := hk.lt
      exact ⟨k, hk, text.take k, [], text.drop k, by simp, by simp; omega, by simp; omega, .done⟩
    · rintro ⟨j, hj, before, part, after, -, rfl, rfl, hmatch⟩
      cases hmatch
      simpa using hj

/-- One part after another. -/
lemma Walks.next (hfirst : Walks p.Matches text places middle)
    (hrest : Walks (Pattern.seq parts).Matches text middle last) :
    Walks (Pattern.seq (p :: parts)).Matches text places last where
  length := hrest.length
  has k := by
    simp only [hrest.has, hfirst.has]
    constructor
    · rintro ⟨_, ⟨j, hj, before, part, after, rfl, rfl, rfl, hp⟩,
        before', rest, after', htext, hlength, rfl, hparts⟩
      rw [List.append_assoc before', eq_comm] at htext
      obtain ⟨rfl, -⟩ := List.append_inj htext hlength
      exact ⟨before.length, hj, before, part ++ rest, after', by simp [← htext], rfl, by simp,
        .next hp hparts⟩
    · rintro ⟨j, hj, before, part, after, rfl, rfl, rfl, hmatch⟩
      cases hmatch with
      | @next _ _ part rest hp hparts =>
        exact ⟨(before ++ part).length,
          ⟨before.length, hj, before, part, rest ++ after, by simp, rfl, rfl, hp⟩,
          before ++ part, rest, after, by simp, rfl, by simp, hparts⟩

/-- No branch at all. -/
lemma walks_nowhere : Walks (Pattern.alt []).Matches text places (.none text) where
  length := by simp [Places.none]
  has k := by
    refine iff_of_false Places.not_has_none ?_
    rintro ⟨j, -, before, part, after, -, -, -, hmatch⟩
    cases hmatch with
    | alt hmem => cases hmem

/-- One branch or another. -/
lemma Walks.union {branches : List Pattern} (hfirst : Walks p.Matches text places middle)
    (hrest : Walks (Pattern.alt branches).Matches text places last) :
    Walks (Pattern.alt (p :: branches)).Matches text places (middle.union last) where
  length := by simp [Places.union, hfirst.length, hrest.length]
  has k := by
    rw [Places.has_union (hfirst.length.trans hrest.length.symm), hfirst.has, hrest.has]
    constructor
    · rintro (⟨j, hj, before, part, after, htext, hbefore, hpart, hp⟩ |
        ⟨j, hj, before, part, after, htext, hbefore, hpart, hrest⟩)
      · exact ⟨j, hj, before, part, after, htext, hbefore, hpart, .alt List.mem_cons_self hp⟩
      · cases hrest with
        | alt hmem hp =>
          exact ⟨j, hj, before, part, after, htext, hbefore, hpart,
            .alt (List.mem_cons_of_mem _ hmem) hp⟩
    · rintro ⟨j, hj, before, part, after, htext, hbefore, hpart, hmatch⟩
      cases hmatch with
      | alt hmem hp =>
        rcases List.mem_cons.mp hmem with rfl | hmem
        · exact .inl ⟨j, hj, before, part, after, htext, hbefore, hpart, hp⟩
        · exact .inr ⟨j, hj, before, part, after, htext, hbefore, hpart, .alt hmem hp⟩

mutual

/-- A walk leads over what the pattern matches. -/
theorem Pattern.walks (p : Pattern) {places : Places} (h : places.length = text.length + 1) :
    Walks p.Matches text places (p.walk text places) :=
  match p with
  | .byte s => walks_byte s h
  | .run => walks_run h
  | .seq parts => walks_all parts h
  | .alt branches => walks_any branches h

theorem walks_all (parts : List Pattern) {places : Places}
    (h : places.length = text.length + 1) :
    Walks (Pattern.seq parts).Matches text places (walkAll text parts places) :=
  match parts with
  | [] => walks_done h
  | p :: parts => (p.walks h).next (walks_all parts (p.walks h).length)

theorem walks_any (branches : List Pattern) {places : Places}
    (h : places.length = text.length + 1) :
    Walks (Pattern.alt branches).Matches text places (walkAny text branches places) :=
  match branches with
  | [] => walks_nowhere
  | p :: branches => (p.walks h).union (walks_any branches h)

end

/-- A walk over all of a text comes to its end exactly when the pattern matches the text. -/
theorem Pattern.isMatch_iff (p : Pattern) (text : List UInt8) :
    p.isMatch text = true ↔ p.Matches text := by
  have hwalk : Walks p.Matches text (.start text) (p.walk text (.start text)) :=
    p.walks (by simp [Places.start])
  have hlast : p.isMatch text = true ↔ (p.walk text (.start text)).Has text.length := by
    rw [isMatch, List.getLastD_eq_getLast?, List.getLast?_eq_getElem?, hwalk.length,
      Nat.add_sub_cancel, Places.Has]
    cases (p.walk text (.start text))[text.length]? <;> simp
  rw [hlast, hwalk.has]
  constructor
  · rintro ⟨j, hj, before, part, after, rfl, rfl, hend, hp⟩
    obtain rfl : before = [] := List.length_eq_zero_iff.mp (Places.has_start.mp hj)
    obtain rfl : after = [] := by simpa using hend
    simpa using hp
  · intro hp
    exact ⟨0, Places.has_start.mpr rfl, [], text, [], by simp, rfl, by simp, hp⟩

end LanguageClient.Glob
