/-!
# Lists by position

What becomes of a list when the element at one of its positions is replaced, and what is said of
every position of a list.
-/

namespace Switchboard

variable {α β : Type} {l : List α} {n : Nat} {a b : α}

/-- A replacement that a function does not see. -/
theorem map_set_eq_map {g : α → β} (ha : l[n]? = some a) (hb : g b = g a) :
    (l.set n b).map g = l.map g := by
  obtain ⟨hn, rfl⟩ := List.getElem?_eq_some_iff.1 ha
  rw [List.map_set, hb, ← List.getElem_map g (h := by rwa [List.length_map]), List.set_getElem_self]

theorem filterMap_set_eq_filterMap {g : α → Option β} (ha : l[n]? = some a) (hb : g b = g a) :
    (l.set n b).filterMap g = l.filterMap g := by
  have hmap (l : List α) : l.filterMap g = (l.map g).filterMap id := by
    rw [List.filterMap_map]
    rfl
  rw [hmap, hmap, map_set_eq_map ha hb]

theorem any_set_eq_any {p : α → Bool} (ha : l[n]? = some a) (hb : p b = p a) :
    (l.set n b).any p = l.any p := by
  have hmap (l : List α) : l.any p = (l.map p).any fun q => q := by
    rw [List.any_map]
    rfl
  rw [hmap, hmap, map_set_eq_map ha hb]

theorem forall_mem_set_iff {P : α → Prop} (ha : l[n]? = some a) (hb : P b ↔ P a) :
    (∀ x ∈ l.set n b, P x) ↔ ∀ x ∈ l, P x := by
  have hmap (l : List α) : (∀ x ∈ l, P x) ↔ ∀ q ∈ l.map P, q :=
    (List.forall_mem_map (P := fun q => q)).symm
  rw [hmap, hmap, map_set_eq_map ha (propext hb)]

/-- The lists around the position of an element. -/
theorem exists_append_of_getElem? (ha : l[n]? = some a) :
    ∃ front back, front.length = n ∧ l = front ++ a :: back ∧
      ∀ b, l.set n b = front ++ b :: back := by
  obtain ⟨hn, rfl⟩ := List.getElem?_eq_some_iff.1 ha
  refine ⟨l.take n, l.drop (n + 1), ?_, ?_, fun b => ?_⟩
  · rw [List.length_take]
    omega
  · rw [← List.drop_eq_getElem_cons hn, List.take_append_drop]
  · rw [List.set_eq_take_append_cons_drop, if_pos hn]

/-- An element that has been put behind a list is taken away again. -/
theorem eraseIdx_concat_length (l : List α) (a : α) : (l ++ [a]).eraseIdx l.length = l := by
  rw [List.eraseIdx_append_of_length_le (Nat.le_refl _), Nat.sub_self, List.eraseIdx_cons_zero,
    List.append_nil]

/-- What comes in addition when an element that a function leaves out is replaced. -/
theorem filterMap_set_perm {g : α → Option β} (ha : l[n]? = some a) (hg : g a = none) :
    ((l.set n b).filterMap g).Perm (l.filterMap g ++ (g b).toList) := by
  obtain ⟨front, back, -, rfl, hset⟩ := exists_append_of_getElem? ha
  rw [hset, List.filterMap_append, List.filterMap_append, List.filterMap_cons_none hg,
    List.append_assoc]
  refine List.Perm.append_left _ ?_
  cases hb : g b with
  | none => simp [hb]
  | some c =>
    rw [List.filterMap_cons_some hb, Option.toList_some]
    exact (List.perm_append_singleton c _).symm

/-- What is said of every position of a list that begins with `a`. -/
theorem forall_split_cons_iff {rest : List α} {P : List α → α → Prop} :
    (∀ before b after, a :: rest = before ++ b :: after → P before b) ↔
      P [] a ∧ ∀ before b after, rest = before ++ b :: after → P (a :: before) b := by
  constructor
  · intro h
    refine ⟨h [] a rest rfl, fun before b after hrest => h (a :: before) b after ?_⟩
    rw [hrest, List.cons_append]
  · rintro ⟨hhead, htail⟩ before b after heq
    cases before with
    | nil =>
      obtain ⟨rfl, -⟩ := List.cons.inj heq
      exact hhead
    | cons b' before =>
      obtain ⟨rfl, hrest⟩ := List.cons.inj heq
      exact htail before b after hrest

/-- Where `b` is in a list that begins with `a`. -/
theorem exists_split_cons_iff {rest : List α} {b : α} {P : List α → Prop} :
    (∃ before after, a :: rest = before ++ b :: after ∧ P before) ↔
      (a = b ∧ P []) ∨ ∃ before after, rest = before ++ b :: after ∧ P (a :: before) := by
  constructor
  · rintro ⟨before, after, heq, hP⟩
    cases before with
    | nil => exact .inl ⟨(List.cons.inj heq).1, hP⟩
    | cons b' before =>
      obtain ⟨rfl, hrest⟩ := List.cons.inj heq
      exact .inr ⟨before, after, hrest, hP⟩
  · rintro (⟨rfl, hP⟩ | ⟨before, after, rfl, hP⟩)
    · exact ⟨[], rest, rfl, hP⟩
    · exact ⟨a :: before, after, rfl, hP⟩

end Switchboard
