import Mathlib.Data.String.Basic
import Switchboard.Table

/-!
# Laws of tables

A table of which each binding was made by `insert` keeps its keys in order, none twice.
-/

namespace Switchboard.Table

variable {α : Type} {key other : String} {value : α} {t : Table α}

theorem sorted_nil : Sorted ([] : Table α) := .nil

theorem mem_keys_insert : other ∈ keys (insert key value t) ↔ other = key ∨ other ∈ keys t := by
  induction t with
  | nil => simp [insert, keys]
  | cons pair rest ih =>
    obtain ⟨k, v⟩ := pair
    simp only [keys, insert] at ih ⊢
    split
    · next heq => simp [heq]
    · split
      · simp
      · rw [List.map_cons, List.mem_cons, ih, List.map_cons, List.mem_cons, or_left_comm]

theorem sorted_insert (h : Sorted t) : Sorted (insert key value t) := by
  induction t with
  | nil => exact List.pairwise_singleton _ _
  | cons pair rest ih =>
    obtain ⟨k, v⟩ := pair
    obtain ⟨hk, hrest⟩ := List.pairwise_cons.1 h
    simp only [insert]
    split
    · next heq =>
      rw [← heq] at hk
      exact List.pairwise_cons.2 ⟨hk, hrest⟩
    · next hne =>
      split
      · next hlt =>
        refine List.pairwise_cons.2 ⟨fun other hother => ?_, h⟩
        rcases List.mem_cons.1 hother with rfl | hother
        · exact hlt
        · exact hlt.trans (hk other hother)
      · next hnlt =>
        have hlt : k < key := lt_of_le_of_ne (not_lt.1 hnlt) (Ne.symm hne)
        refine List.pairwise_cons.2 ⟨fun other hother => ?_, ih hrest⟩
        rcases mem_keys_insert.1 hother with rfl | hother
        · exact hlt
        · exact hk other hother

theorem mem_keys_iff : key ∈ keys t ↔ ∃ value, find? key t = some value := by
  induction t with
  | nil => simp [keys]
  | cons pair rest ih =>
    obtain ⟨k, v⟩ := pair
    simp only [keys, find?, List.map_cons, List.mem_cons] at ih ⊢
    by_cases hk : k = key
    · simp [hk]
    · rw [if_neg hk, ih]
      simp [Ne.symm hk]

theorem find?_eq_none_iff : find? key t = none ↔ key ∉ keys t := by
  rw [mem_keys_iff, Option.eq_none_iff_forall_ne_some, not_exists]

/-- A key that was not bound adds a binding. -/
theorem length_insert (h : key ∉ keys t) : (insert key value t).length = t.length + 1 := by
  induction t with
  | nil => rfl
  | cons pair rest ih =>
    obtain ⟨k, v⟩ := pair
    simp only [keys, List.map_cons, List.mem_cons, not_or] at h ih
    rw [insert, if_neg h.1]
    split
    · rfl
    · rw [List.length_cons, ih h.2, List.length_cons]

/-! ## Tables of pairs -/

variable {pair : String × α}

theorem mem_of_mem_insert (h : pair ∈ insert key value t) : pair = (key, value) ∨ pair ∈ t := by
  induction t with
  | nil => exact .inl (List.mem_singleton.1 h)
  | cons other rest ih =>
    obtain ⟨k, v⟩ := other
    simp only [insert] at h
    split at h
    · rcases List.mem_cons.1 h with h | h
      · exact .inl h
      · exact .inr (List.mem_cons_of_mem _ h)
    · split at h
      · exact List.mem_cons.1 h
      · rcases List.mem_cons.1 h with rfl | h
        · exact .inr List.mem_cons_self
        · rcases ih h with h | h
          · exact .inl h
          · exact .inr (List.mem_cons_of_mem _ h)

theorem sorted_foldl_insert {pairs : List (String × α)} (h : Sorted t) :
    Sorted (pairs.foldl (fun t pair => insert pair.1 pair.2 t) t) := by
  induction pairs generalizing t with
  | nil => exact h
  | cons other rest ih => exact ih (sorted_insert h)

theorem mem_of_mem_foldl_insert {pairs : List (String × α)}
    (h : pair ∈ pairs.foldl (fun t pair => insert pair.1 pair.2 t) t) : pair ∈ pairs ∨ pair ∈ t := by
  induction pairs generalizing t with
  | nil => exact .inr h
  | cons other rest ih =>
    rcases ih h with h | h
    · exact .inl (List.mem_cons_of_mem _ h)
    · rcases mem_of_mem_insert h with rfl | h
      · exact .inl List.mem_cons_self
      · exact .inr h

theorem sorted_ofList (pairs : List (String × α)) : Sorted (ofList pairs) :=
  sorted_foldl_insert sorted_nil

theorem mem_of_mem_ofList {pairs : List (String × α)} (h : pair ∈ ofList pairs) : pair ∈ pairs := by
  rcases mem_of_mem_foldl_insert h with h | h
  · exact h
  · nomatch h

theorem insert_of_forall_lt (h : ∀ other ∈ keys t, other < key) :
    insert key value t = t ++ [(key, value)] := by
  induction t with
  | nil => rfl
  | cons pair rest ih =>
    obtain ⟨k, v⟩ := pair
    simp only [keys, List.map_cons, List.mem_cons, forall_eq_or_imp] at h ih
    rw [insert, if_neg h.1.ne', if_neg h.1.not_gt, ih h.2, List.cons_append]

/-- Binding the keys of a table in order gives the table. -/
theorem foldl_insert_of_sorted (done : Table α) (h : Sorted (done ++ t)) :
    t.foldl (fun t pair => insert pair.1 pair.2 t) done = done ++ t := by
  induction t generalizing done with
  | nil => exact (List.append_nil done).symm
  | cons pair rest ih =>
    have hlt : ∀ other ∈ keys done, other < pair.1 := by
      simp only [Sorted, keys, List.map_append, List.pairwise_append] at h
      intro other hother
      exact h.2.2 other hother pair.1 List.mem_cons_self
    rw [List.append_cons] at h
    rw [List.foldl_cons, insert_of_forall_lt hlt, ih _ h, List.append_assoc, List.singleton_append]

theorem ofList_of_sorted (h : Sorted t) : ofList t = t :=
  foldl_insert_of_sorted [] h

/-- After several bindings, a key has the value that it was bound to last. -/
theorem find?_foldl_insert (pairs : List (String × α)) :
    find? key (pairs.foldl (fun t pair => insert pair.1 pair.2 t) t) =
      (pairs.reverse.lookup key).or (find? key t) := by
  induction pairs generalizing t with
  | nil => rfl
  | cons pair rest ih =>
    obtain ⟨k, v⟩ := pair
    rw [List.foldl_cons, ih, find?_insert, List.reverse_cons, List.lookup_append, Option.or_assoc]
    by_cases hk : k = key
    · simp [hk]
    · have hne : (key == k) = false := by simpa using Ne.symm hk
      simp [List.lookup_cons, hk, hne]

theorem find?_ofList (pairs : List (String × α)) :
    find? key (ofList pairs) = pairs.reverse.lookup key := by
  rw [ofList, find?_foldl_insert, find?_nil, Option.or_none]

end Switchboard.Table
