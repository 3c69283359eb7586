import LanguageClient.Diagnostics.Published
import LanguageClient.Proofs.Json.Records
import Mathlib.Data.List.Forall2

/-!
# What published diagnostics say

Parameters that can be read give the diagnostics that stand in them, one for each item and in the
same order: `Published.items_of_decode`.
-/

namespace LanguageClient

open Json.Decode

/-- What is read item by item stands in the order of the items. -/
lemma forall₂_of_mapM {α β ε : Type} {f : α → Except ε β} {xs : List α} {ys : List β}
    (h : xs.mapM f = .ok ys) : List.Forall₂ (fun x y => f x = .ok y) xs ys := by
  induction xs generalizing ys with
  | nil =>
    obtain rfl : [] = ys := by simpa [pure, Except.pure] using h
    exact .nil
  | cons x rest ih =>
    rw [List.mapM_cons] at h
    cases hx : f x with
    | error e => simp [hx, bind, Except.bind] at h
    | ok y =>
      cases hrest : rest.mapM f with
      | error e => simp [hx, hrest, bind, Except.bind] at h
      | ok later =>
        obtain rfl : y :: later = ys := by
          simpa [hx, hrest, bind, Except.bind, pure, Except.pure] using h
        exact .cons hx (ih hrest)

namespace Published

/-- The items in what a server publishes: those of a field, or of the third part of an array. -/
def listed? : Json → Option (List Json)
  | .obj fields => (Table.find? "diagnostics" fields).bind Json.items?
  | .arr [_, _, diagnostics] => diagnostics.items?
  | _ => none

lemma items_of_list {value : Json} {items : List Diagnostic}
    (h : Json.Decode.list item value = .ok items) :
    ∃ listed, value.items? = some listed ∧
      List.Forall₂ (fun j d => item j = .ok d) listed items := by
  cases value with
  | arr listed => exact ⟨listed, rfl, forall₂_of_mapM h⟩
  | _ => cases h

lemma part_items : shape.Part 2 "diagnostics" .required Published.items (Json.Decode.list item) where
  names := by simp [shape, Field.name]
  fields := by
    refine ⟨[_, _], _, [], rfl, rfl, rfl, rfl, Field.sets_of_put fun _ _ => rfl, ?_⟩
    simp only [List.append_nil, List.forall_mem_cons]
    exact ⟨⟨by simp [Field.name], Field.spares_of_put fun _ _ => rfl⟩,
      ⟨by simp [Field.name], Field.spares_of_put fun _ _ => rfl⟩, List.forall_mem_nil _⟩

/-- An array of the three parts has nothing behind the diagnostics. -/
lemma listed?_of_field? {params value : Json} {p : Published} (h : decode params = .ok p)
    (hvalue : params.field? "diagnostics" 2 = some value) : listed? params = value.items? := by
  cases params with
  | obj fields =>
    change Table.find? "diagnostics" fields = some value at hvalue
    simp [listed?, hvalue]
  | arr parts =>
    have hlength : parts.length ≤ 3 := Shape.length_le_of_setItems h
    have hthird : parts[2]? = some value := hvalue
    rcases parts with _ | ⟨first, _ | ⟨second, _ | ⟨third, rest⟩⟩⟩
    · cases hthird
    · cases hthird
    · cases hthird
    · obtain rfl : rest = [] := by
        rw [← List.length_eq_zero_iff]
        simp only [List.length_cons] at hlength
        omega
      obtain rfl : third = value := by simpa using hthird
      rfl
  | _ => cases h

/-- The diagnostics are what the items say, in their order. -/
theorem items_of_decode {params : Json} {p : Published} (h : decode params = .ok p) :
    ∃ listed, listed? params = some listed ∧
      List.Forall₂ (fun j d => item j = .ok d) listed p.items := by
  obtain ⟨value, hvalue, hitems⟩ := part_items.of_read_required h
  rw [listed?_of_field? h hvalue]
  exact items_of_list hitems

end Published

end LanguageClient
