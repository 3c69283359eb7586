import LanguageClient.Json.Decode
import Mathlib.Data.List.Basic

/-!
# Where the parts of a record come from

A record that can be read has in each of its parts what the value of one field says, whether it is
written as an object or as an array: `Shape.Part.of_read`.
-/

namespace LanguageClient.Json

/-- The value of a field: by its name in an object, by its place in an array. -/
def field? (name : String) (place : Nat) : Json → Option Json
  | .obj fields => Table.find? name fields
  | .arr items => items[place]?
  | _ => none

namespace Decode

variable {σ β γ : Type} {part : σ → β} {decode : Decode β}

/-- What setting a field makes of a part of the record is what its value says. -/
def Field.Sets (f : Field σ) (part : σ → β) (decode : Decode β) : Prop :=
  ∀ ⦃record value record'⦄, f.set record value = .ok record' → decode value = .ok (part record')

/-- Setting a field leaves a part of the record alone. -/
def Field.Spares (f : Field σ) (part : σ → β) : Prop :=
  ∀ ⦃record value record'⦄, f.set record value = .ok record' → part record' = part record

/-- What comes of a value that is read. -/
lemma of_return {read : Decode γ} {make : γ → σ} {value : Json} {made : σ}
    (h : (do return make (← read value) : Except DecodeError σ) = .ok made) :
    ∃ a, read value = .ok a ∧ make a = made := by
  cases hread : read value with
  | error e => simp [hread, bind, Except.bind] at h
  | ok a =>
    refine ⟨a, rfl, ?_⟩
    simpa [hread, bind, Except.bind, pure, Except.pure] using h

lemma Field.sets_of_put {names : List String} {presence : Presence} {put : σ → β → σ}
    (h : ∀ record a, part (put record a) = a) :
    Field.Sets ⟨names, presence, fun record value => do return put record (← decode value)⟩
      part decode := by
  intro record value record' hset
  obtain ⟨a, hread, rfl⟩ := of_return hset
  rw [hread, h]

lemma Field.spares_of_put {names : List String} {presence : Presence} {read : Decode γ}
    {put : σ → γ → σ} (h : ∀ record a, part (put record a) = part record) :
    Field.Spares ⟨names, presence, fun record value => do return put record (← read value)⟩
      part := by
  intro record value record' hset
  obtain ⟨a, -, rfl⟩ := of_return hset
  exact h record a

namespace Shape

variable {shape : Shape σ} {place total index : Nat} {name key : String} {presence : Presence}
  {record record' : σ} {seen names : List String} {value : Json} {fields : List (String × Json)}
  {f : Field σ} {fs before after : List (Field σ)} {items : List Json}

/-- One field of a record type, known by one name, sets a part that the other fields leave alone. -/
structure Part (shape : Shape σ) (place : Nat) (name : String) (presence : Presence)
    (part : σ → β) (decode : Decode β) : Prop where
  /-- No field has a second name. -/
  names : ∀ f ∈ shape.fields, f.names = [f.name]
  fields : ∃ before f after, shape.fields = before ++ f :: after ∧ before.length = place ∧
    f.name = name ∧ f.presence = presence ∧ f.Sets part decode ∧
    ∀ g ∈ before ++ after, g.name ≠ name ∧ g.Spares part

lemma Part.exists_field (h : shape.Part place name presence part decode) :
    ∃ f ∈ shape.fields, f.name = name ∧ f.presence = presence := by
  obtain ⟨before, f, after, hfields, -, hname, hpresence, -⟩ := h.fields
  exact ⟨f, by simp [hfields], hname, hpresence⟩

lemma Part.field_cases (h : shape.Part place name presence part decode) (hf : f ∈ shape.fields) :
    f.name = name ∧ f.Sets part decode ∨ f.name ≠ name ∧ f.Spares part := by
  obtain ⟨before, g, after, hfields, -, hname, -, hsets, hspares⟩ := h.fields
  have hcases : f = g ∨ f ∈ before ++ after := by
    rw [hfields] at hf
    simp only [List.mem_append, List.mem_cons] at hf ⊢
    tauto
  rcases hcases with rfl | hother
  · exact .inl ⟨hname, hsets⟩
  · exact .inr (hspares f hother)

/-! ### Objects -/

/-- An entry is passed over, or sets its field for the first time. -/
lemma setFields_cons (hnames : ∀ f ∈ shape.fields, f.names = [f.name])
    (h : shape.setFields record seen ((key, value) :: fields) = .ok (record', names)) :
    (∀ f ∈ shape.fields, f.name ≠ key) ∧
      shape.setFields record seen fields = .ok (record', names) ∨
    ∃ f ∈ shape.fields, ∃ next, f.name = key ∧ key ∉ seen ∧ f.set record value = .ok next ∧
      shape.setFields next (key :: seen) fields = .ok (record', names) := by
  rw [setFields] at h
  split at h
  case h_1 hnone =>
    refine .inl ⟨?_, h⟩
    intro f hf hname
    have hnot := List.find?_eq_none.mp hnone f hf
    simp [hnames f hf, hname] at hnot
  case h_2 f hf =>
    have hmem := List.mem_of_find?_eq_some hf
    have hkey : key = f.name := by simpa [hnames f hmem] using List.find?_some hf
    by_cases hseen : f.name ∈ seen
    · simp [hseen, bind, Except.bind, throw, throwThe, MonadExceptOf.throw] at h
    · cases hset : f.set record value with
      | error e => simp [hseen, hset, bind, Except.bind] at h
      | ok next =>
        refine .inr ⟨f, hmem, next, hkey.symm, hkey ▸ hseen, hset, ?_⟩
        simpa [hseen, hset, hkey, bind, Except.bind, pure, Except.pure] using h

/-- A part that has been set stays as it is, and one that has not is set by the first entry of its
name. -/
lemma Part.of_setFields (h : shape.Part place name presence part decode)
    (hset : shape.setFields record seen fields = .ok (record', names)) :
    (name ∈ seen → part record' = part record) ∧
    (name ∉ seen → (∃ value, Table.find? name fields = some value ∧
        decode value = .ok (part record')) ∨
      Table.find? name fields = none ∧ part record' = part record ∧ name ∉ names) := by
  induction fields generalizing record seen with
  | nil =>
    obtain ⟨rfl, rfl⟩ : record = record' ∧ seen = names := by simpa [setFields] using hset
    exact ⟨fun _ => rfl, fun hnew => .inr ⟨rfl, rfl, hnew⟩⟩
  | cons entry rest ih =>
    obtain ⟨key, value⟩ := entry
    rcases setFields_cons h.names hset with
      ⟨hunknown, hrest⟩ | ⟨f, hf, next, rfl, hnew, hnext, hrest⟩
    · have hne : key ≠ name := by
        obtain ⟨f, hf, hname, -⟩ := h.exists_field
        rw [← hname]
        exact (hunknown f hf).symm
      obtain ⟨hkept, hset⟩ := ih hrest
      exact ⟨hkept, by simpa [Table.find?, hne] using hset⟩
    · obtain ⟨hkept, hset⟩ := ih hrest
      rcases h.field_cases hf with ⟨rfl, hsets⟩ | ⟨hne, hspares⟩
      · refine ⟨fun hseen => absurd hseen hnew, fun _ => .inl ⟨value, ?_, ?_⟩⟩
        · simp [Table.find?]
        · rw [hkept (List.mem_cons_self ..)]
          exact hsets hnext
      · have hmem : name ∈ f.name :: seen ↔ name ∈ seen := by simp [hne.symm]
        rw [hmem, hspares hnext] at hkept hset
        exact ⟨hkept, by simpa [Table.find?, hne] using hset⟩

/-! ### Arrays -/

lemma setItems_cons {item : Json}
    (h : shape.setItems total index record (f :: fs) (item :: items) = .ok record') :
    ∃ next, f.set record item = .ok next ∧
      shape.setItems total (index + 1) next fs items = .ok record' := by
  rw [setItems] at h
  cases hset : f.set record item with
  | error e => simp [hset, bind, Except.bind] at h
  | ok next => exact ⟨next, rfl, by simpa [hset, bind, Except.bind] using h⟩

lemma setItems_nil (h : shape.setItems total index record (f :: fs) [] = .ok record') :
    f.presence = .defaulted ∧ shape.setItems total (index + 1) record fs [] = .ok record' := by
  rw [setItems] at h
  split at h
  case isTrue hdefaulted => exact ⟨hdefaulted, h⟩
  case isFalse => cases h

/-- There are no more items than fields. -/
lemma length_le_of_setItems (h : shape.setItems total index record fs items = .ok record') :
    items.length ≤ fs.length := by
  induction fs generalizing index record items with
  | nil =>
    cases items with
    | nil => exact Nat.le_refl _
    | cons => cases h
  | cons f fs ih =>
    cases items with
    | nil => exact Nat.zero_le _
    | cons item rest =>
      obtain ⟨next, -, hrest⟩ := setItems_cons h
      exact Nat.succ_le_succ (ih hrest)

lemma spares_of_setItems (hfs : ∀ g ∈ fs, g.Spares part)
    (h : shape.setItems total index record fs items = .ok record') :
    part record' = part record := by
  induction fs generalizing index record items with
  | nil =>
    cases items with
    | nil =>
      obtain rfl : record = record' := by simpa [setItems] using h
      rfl
    | cons => cases h
  | cons f fs ih =>
    have hlater : ∀ g ∈ fs, g.Spares part := fun g hg => hfs g (List.mem_cons_of_mem _ hg)
    cases items with
    | nil => exact ih hlater (setItems_nil h).2
    | cons item rest =>
      obtain ⟨next, hset, hrest⟩ := setItems_cons h
      rw [ih hlater hrest, hfs f (List.mem_cons_self ..) hset]

/-- The item at the place of a field sets its part, unless there are too few items. -/
lemma of_setItems (hsets : f.Sets part decode) (hspares : ∀ g ∈ before ++ after, g.Spares part)
    (h : shape.setItems total index record (before ++ f :: after) items = .ok record') :
    (∃ item, items[before.length]? = some item ∧ decode item = .ok (part record')) ∨
      items[before.length]? = none ∧ part record' = part record ∧ f.presence = .defaulted := by
  induction before generalizing index record items with
  | nil =>
    cases items with
    | nil =>
      obtain ⟨hdefaulted, hrest⟩ := setItems_nil h
      exact .inr ⟨rfl, spares_of_setItems hspares hrest, hdefaulted⟩
    | cons item rest =>
      obtain ⟨next, hset, hrest⟩ := setItems_cons h
      refine .inl ⟨item, rfl, ?_⟩
      rw [spares_of_setItems hspares hrest]
      exact hsets hset
  | cons g before ih =>
    have hlater : ∀ g ∈ before ++ after, g.Spares part :=
      fun g hg => hspares g (List.mem_cons_of_mem _ hg)
    cases items with
    | nil => exact ih hlater (setItems_nil h).2
    | cons item rest =>
      obtain ⟨next, hset, hrest⟩ := setItems_cons h
      rw [← hspares g (List.mem_cons_self ..) hset]
      exact ih hlater hrest

/-! ### Records -/

/-- A part of a record is what the value of its field says. Only a field that is not required can be
without a value. -/
theorem Part.of_read (h : shape.Part place name presence part decode) {json : Json}
    (hread : shape.read record json = .ok record') :
    (∃ value, json.field? name place = some value ∧ decode value = .ok (part record')) ∨
      json.field? name place = none ∧ part record' = part record ∧ presence ≠ .required := by
  cases json with
  | obj fields =>
    simp only [read] at hread
    cases hfields : shape.setFields record [] fields with
    | error e => simp [hfields, bind, Except.bind] at hread
    | ok r =>
      obtain ⟨next, names⟩ := r
      simp only [hfields, bind, Except.bind] at hread
      split at hread
      case h_1 => cases hread
      case h_2 hnone =>
        obtain rfl : next = record' := by simpa [pure, Except.pure] using hread
        refine ((h.of_setFields hfields).2 List.not_mem_nil).imp_right ?_
        rintro ⟨hmissing, hkept, hunset⟩
        refine ⟨hmissing, hkept, ?_⟩
        rintro rfl
        obtain ⟨f, hf, hname, hpresence⟩ := h.exists_field
        have hset := List.find?_eq_none.mp hnone f hf
        simp [hname, hpresence, hunset] at hset
  | arr items =>
    obtain ⟨before, f, after, hfields, rfl, -, rfl, hsets, hothers⟩ := h.fields
    simp only [read, hfields] at hread
    refine (of_setItems hsets (fun g hg => (hothers g hg).2) hread).imp_right ?_
    rintro ⟨hmissing, hkept, hdefaulted⟩
    refine ⟨hmissing, hkept, ?_⟩
    rw [hdefaulted]
    nofun
  | _ => cases hread

lemma Part.of_read_required (h : shape.Part place name .required part decode) {json : Json}
    (hread : shape.read record json = .ok record') :
    ∃ value, json.field? name place = some value ∧ decode value = .ok (part record') := by
  rcases h.of_read hread with hset | ⟨-, -, hne⟩
  · exact hset
  · exact absurd rfl hne

end Shape

end Decode

end LanguageClient.Json
