import Mathlib.Data.List.TakeWhile
import Switchboard.Text.Blank

/-!
# Texts without the white space at either end

A text is white space, a part that neither begins nor ends with white space, and white space. There
is one such part, and trimming gives it.
-/

namespace Switchboard.Text

variable {cs inner lead trail : List Char}

/-- The characters of a list are white space. -/
def Blank (cs : List Char) : Prop := ∀ c ∈ cs, isBlank c = true

instance (cs : List Char) : Decidable (Blank cs) :=
  decidable_of_iff (cs.all isBlank = true) List.all_eq_true

/-- A list without the white space at either end. -/
structure Stripped (cs inner : List Char) : Prop where
  split : ∃ lead trail, Blank lead ∧ Blank trail ∧ cs = lead ++ inner ++ trail
  first : ∀ c ∈ inner.head?, isBlank c = false
  last : ∀ c ∈ inner.getLast?, isBlank c = false

theorem dropWhile_blank_append (hlead : Blank lead)
    (hinner : ∀ c ∈ inner.head?, isBlank c = false) :
    (lead ++ inner).dropWhile isBlank = inner := by
  have hdropped : lead.dropWhile isBlank = [] := List.dropWhile_eq_nil_iff.2 hlead
  rw [List.dropWhile_append, hdropped, List.isEmpty_nil, if_pos rfl]
  cases inner with
  | nil => rfl
  | cons c inner => exact List.dropWhile_cons_of_neg (by simp [hinner c rfl])

theorem Stripped.eq_trimBlank (h : Stripped cs inner) : inner = trimBlank cs := by
  rcases h with ⟨⟨lead, trail, hlead, htrail, rfl⟩, hfirst, hlast⟩
  unfold trimBlank
  cases inner with
  | nil =>
    have hall : ∀ c ∈ lead ++ [] ++ trail, isBlank c = true := by
      intro c hc
      simp only [List.append_nil, List.mem_append] at hc
      exact hc.elim (hlead c) (htrail c)
    rw [List.dropWhile_eq_nil_iff.2 hall]
    rfl
  | cons c inner =>
    have hreversed : Blank trail.reverse := fun d hd => htrail d (List.mem_reverse.1 hd)
    have hlast' : ∀ d ∈ (c :: inner).reverse.head?, isBlank d = false := by
      rw [List.head?_reverse]
      exact hlast
    have hfirst' : ∀ d ∈ (c :: inner ++ trail).head?, isBlank d = false := hfirst
    rw [List.append_assoc, dropWhile_blank_append hlead hfirst', List.reverse_append,
      dropWhile_blank_append hreversed hlast', List.reverse_reverse]

theorem head?_dropWhile_isBlank (cs : List Char) :
    ∀ c ∈ (cs.dropWhile isBlank).head?, isBlank c = false := by
  intro c hc
  have hnot := List.head?_dropWhile_not isBlank cs
  rw [Option.mem_def.1 hc] at hnot
  exact hnot

theorem stripped_trimBlank (cs : List Char) : Stripped cs (trimBlank cs) := by
  have hsplit : cs.dropWhile isBlank =
      trimBlank cs ++ ((cs.dropWhile isBlank).reverse.takeWhile isBlank).reverse := by
    unfold trimBlank
    rw [← List.reverse_append, List.takeWhile_append_dropWhile, List.reverse_reverse]
  refine ⟨⟨cs.takeWhile isBlank, ((cs.dropWhile isBlank).reverse.takeWhile isBlank).reverse,
    ?_, ?_, ?_⟩, ?_, ?_⟩
  · intro c hc
    exact (List.mem_takeWhile_imp hc)
  · intro c hc
    exact (List.mem_takeWhile_imp (List.mem_reverse.1 hc))
  · rw [List.append_assoc, ← hsplit, List.takeWhile_append_dropWhile]
  · intro c hc
    apply head?_dropWhile_isBlank cs
    rw [hsplit, List.head?_append, Option.mem_def.1 hc]
    rfl
  · intro c hc
    apply head?_dropWhile_isBlank (cs.dropWhile isBlank).reverse
    rw [← List.getLast?_reverse]
    exact hc

/-- Trimming gives the part between the white space at either end. -/
theorem stripped_iff : Stripped cs inner ↔ inner = trimBlank cs := by
  constructor
  · exact Stripped.eq_trimBlank
  · rintro rfl
    exact stripped_trimBlank cs

end Switchboard.Text
