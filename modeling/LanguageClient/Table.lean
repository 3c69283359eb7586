/-!
# Tables

A table pairs text keys with values, its entries in strictly increasing key order. The order is
that of code points, which is also the order of the keys' UTF-8 bytes. Looking a key up after an
insertion or an erasure is governed by `find?_insert` and `find?_erase`.
-/

namespace LanguageClient

/-- Entries in key order, no key twice. -/
abbrev Table (α : Type) := List (String × α)

namespace Table

variable {α : Type}

/-- The keys strictly increase. -/
def Sorted (t : Table α) : Prop := t.Pairwise fun a b => a.1 < b.1

/-- The value at `key`. -/
def find? (key : String) : Table α → Option α
  | [] => none
  | (k, v) :: rest => if k = key then some v else find? key rest

/-- Put `value` at `key`, in place of what stood there. -/
def insert (key : String) (value : α) : Table α → Table α
  | [] => [(key, value)]
  | (k, v) :: rest =>
    if key < k then (key, value) :: (k, v) :: rest
    else if key = k then (key, value) :: rest
    else (k, v) :: insert key value rest

/-- Drop the entry at `key`. -/
def erase (key : String) (t : Table α) : Table α := t.filter fun e => e.1 != key

@[simp] theorem find?_nil (key : String) : find? key ([] : Table α) = none := rfl

theorem find?_insert (key k : String) (v : α) (t : Table α) :
    find? k (insert key v t) = if key = k then some v else find? k t := by
  induction t with
  | nil => rfl
  | cons e rest ih =>
    obtain ⟨k', v'⟩ := e
    simp only [insert]
    by_cases hlt : key < k'
    · simp [hlt, find?]
    · by_cases heq : key = k'
      · subst heq
        by_cases h : key = k <;> simp [h, find?]
      · simp only [hlt, heq, if_false, find?, ih]
        by_cases h : k' = k
        · have : key ≠ k := fun e => heq (e.trans h.symm)
          simp [h, this]
        · simp [h]

theorem find?_erase (key k : String) (t : Table α) :
    find? k (erase key t) = if key = k then none else find? k t := by
  induction t with
  | nil => simp [erase]
  | cons e rest ih =>
    obtain ⟨k', v'⟩ := e
    simp only [erase, List.filter_cons, bne_iff_ne, ne_eq] at ih ⊢
    by_cases h : k' = key
    · subst h
      by_cases hk : k' = k <;> simp_all [find?]
    · by_cases hk : k' = k
      · have : k ≠ key := fun e => h (hk.trans e)
        simp [this, find?, hk, Ne.symm this]
      · simp [h, hk, ih, find?]

theorem erase_erase (key : String) (t : Table α) : erase key (erase key t) = erase key t := by
  simp [erase, List.filter_filter]

theorem sorted_nil : Sorted ([] : Table α) := List.Pairwise.nil

theorem find?_eq_none {key : String} {t : Table α} (h : ∀ e ∈ t, e.1 ≠ key) :
    find? key t = none := by
  induction t with
  | nil => rfl
  | cons e rest ih =>
    have hne : e.1 ≠ key := h e (List.mem_cons_self ..)
    have hrest : find? key rest = none := ih fun e he => h e (List.mem_cons_of_mem _ he)
    simp [find?, hne, hrest]

theorem mem_of_find? {key : String} {value : α} {t : Table α} (h : find? key t = some value) :
    (key, value) ∈ t := by
  induction t with
  | nil => cases h
  | cons e rest ih =>
    by_cases he : e.1 = key
    · obtain rfl : e.2 = value := by simpa [find?, he] using h
      exact he ▸ List.mem_cons_self ..
    · exact List.mem_cons_of_mem _ (ih (by simpa [find?, he] using h))

/-- A new key is put somewhere among the others. -/
theorem perm_insert {key : String} {t : Table α} (h : ∀ e ∈ t, e.1 ≠ key) (value : α) :
    (insert key value t).Perm ((key, value) :: t) := by
  induction t with
  | nil => exact .refl _
  | cons e rest ih =>
    have hne : key ≠ e.1 := Ne.symm (h e (List.mem_cons_self ..))
    have hrest := ih fun e he => h e (List.mem_cons_of_mem _ he)
    simp only [insert, hne, if_false]
    split
    · exact .refl _
    · exact (hrest.cons e).trans (.swap ..)

/-- A key after all others is put at the end. -/
theorem insert_of_lt {key : String} {t : Table α} (h : ∀ e ∈ t, e.1 < key) (value : α) :
    insert key value t = t ++ [(key, value)] := by
  induction t with
  | nil => rfl
  | cons e rest ih =>
    have hlt : e.1 < key := h e (List.mem_cons_self ..)
    have hne : key ≠ e.1 := fun heq => String.lt_irrefl key (heq ▸ hlt)
    have hrest := ih fun e he => h e (List.mem_cons_of_mem _ he)
    simp [insert, String.lt_asymm hlt, hne, hrest]

theorem of_mem_insert {key : String} {value : α} {t : Table α} {e : String × α}
    (h : e ∈ insert key value t) : e = (key, value) ∨ e ∈ t := by
  induction t with
  | nil => exact .inl (List.mem_singleton.mp h)
  | cons head rest ih =>
    simp only [insert] at h
    split at h
    · exact List.mem_cons.mp h
    · split at h
      · rcases List.mem_cons.mp h with h | h
        · exact .inl h
        · exact .inr (List.mem_cons_of_mem _ h)
      · rcases List.mem_cons.mp h with h | h
        · exact .inr (h ▸ List.mem_cons_self ..)
        · exact (ih h).imp_right (List.mem_cons_of_mem _)

theorem sorted_insert {t : Table α} (h : t.Sorted) (key : String) (value : α) :
    (insert key value t).Sorted := by
  induction t with
  | nil => exact List.pairwise_singleton ..
  | cons head rest ih =>
    obtain ⟨hhead, hrest⟩ := List.pairwise_cons.mp h
    simp only [insert]
    split
    case isTrue hlt =>
      refine List.pairwise_cons.mpr ⟨fun e he => ?_, h⟩
      rcases List.mem_cons.mp he with rfl | he
      · exact hlt
      · exact String.lt_trans hlt (hhead e he)
    case isFalse hge =>
      split
      case isTrue heq =>
        refine List.pairwise_cons.mpr ⟨fun e he => ?_, hrest⟩
        have hkey := hhead e he
        rwa [← heq] at hkey
      case isFalse hne =>
        refine List.pairwise_cons.mpr ⟨fun e he => ?_, ih hrest⟩
        rcases of_mem_insert he with rfl | he
        · exact Std.lt_of_le_of_ne hge (Ne.symm hne)
        · exact hhead e he

theorem sorted_erase {t : Table α} (h : t.Sorted) (key : String) : (erase key t).Sorted :=
  h.filter _

theorem Sorted.nodup_keys {t : Table α} (h : t.Sorted) : (t.map (·.1)).Nodup := by
  refine List.pairwise_map.mpr (h.imp ?_)
  intro a b hlt heq
  exact String.lt_irrefl _ (heq ▸ hlt)

/-- The same entries stand in one order only. -/
theorem Sorted.eq_of_perm {t u : Table α} (ht : t.Sorted) (hu : u.Sorted) (h : t.Perm u) :
    t = u := by
  apply h.eq_of_pairwise _ ht hu
  intro a b _ _ hab hba
  exact absurd hba (String.lt_asymm hab)

end Table

end LanguageClient
