import Switchboard.Decimal.Number

/-!
# How numbers begin and end

A number begins with a digit, a sign or a point and ends with a digit or a point, unless it is one of
the words for infinity and for what is not a number.
-/

namespace Switchboard.Decimal

variable {cs front back : List Char} {c first : Char} {v : Float}

theorem getLast?_append_eq_some (h : (front ++ back).getLast? = some c) :
    front.getLast? = some c ∨ back.getLast? = some c := by
  rw [List.getLast?_append, Option.or_eq_some_iff] at h
  rcases h with h | ⟨-, h⟩
  · exact .inr h
  · exact .inl h

theorem getLast?_of_cons (hne : cs ≠ []) (h : (first :: cs).getLast? = some c) :
    cs.getLast? = some c := by
  obtain ⟨second, rest, rfl⟩ := List.exists_cons_of_ne_nil hne
  rwa [List.getLast?_cons_cons] at h

theorem isDigit_of_getLast? (h : cs.all Char.isDigit = true) (hc : cs.getLast? = some c) :
    c.isDigit = true :=
  List.all_eq_true.1 h c (List.mem_of_getLast? hc)

/-! ## Ends -/

theorem isDigit_of_readExponent {e : Int} (h : readExponent cs = some e)
    (hc : cs.getLast? = some c) : c.isDigit = true := by
  unfold readExponent at h
  split at h
  next negative digits hsplit =>
  split at h
  · nomatch h
  · next hnot =>
    obtain ⟨hempty, hall⟩ : digits.isEmpty = false ∧ digits.all Char.isDigit = true := by
      simpa using hnot
    have hne : digits ≠ [] := by
      rintro rfl
      nomatch hempty
    refine isDigit_of_getLast? hall ?_
    split at hsplit
    all_goals obtain ⟨-, rfl⟩ := Prod.mk.inj hsplit
    · exact getLast?_of_cons hne hc
    · exact getLast?_of_cons hne hc
    · exact hc

/-- What may follow the digits of a number: nothing, or an exponent after its mark. -/
def exponentAfter (cs : List Char) : Option Int :=
  match cs with
  | [] => some 0
  | c :: more => if c == 'e' || c == 'E' then readExponent more else none

theorem isDigit_of_exponentAfter {e : Int} (h : exponentAfter cs = some e)
    (hc : cs.getLast? = some c) : c.isDigit = true := by
  unfold exponentAfter at h
  split at h
  · nomatch hc
  · next mark more =>
    split at h
    · have hne : more ≠ [] := by
        rintro rfl
        nomatch h
      exact isDigit_of_readExponent h (getLast?_of_cons hne hc)
    · nomatch h

/-- A number without a sign ends with a digit or a point. -/
theorem endsMagnitude {negative : Bool} (h : readMagnitude negative cs = some v)
    (hc : cs.getLast? = some c) : c.isDigit = true ∨ c = '.' := by
  have hwhole : cs.takeWhile Char.isDigit ++ cs.dropWhile Char.isDigit = cs :=
    List.takeWhile_append_dropWhile
  rw [← hwhole] at hc
  unfold readMagnitude at h
  dsimp only at h
  rcases getLast?_append_eq_some hc with hc | hc
  · exact .inl (isDigit_of_getLast? List.all_takeWhile hc)
  · split at h
    · next more hpoint =>
      split at h
      · nomatch h
      · obtain ⟨e, he, -⟩ := Option.map_eq_some_iff.1 h
        rw [hpoint, ← List.takeWhile_append_dropWhile (p := Char.isDigit) (l := more),
          ← List.cons_append] at hc
        rcases getLast?_append_eq_some hc with hc | hc
        · by_cases hfraction : more.takeWhile Char.isDigit = []
          · rw [hfraction] at hc
            exact .inr (Option.some.inj hc).symm
          · exact .inl (isDigit_of_getLast? List.all_takeWhile (getLast?_of_cons hfraction hc))
        · exact .inl (isDigit_of_exponentAfter he hc)
    · split at h
      · nomatch h
      · obtain ⟨e, he, -⟩ := Option.map_eq_some_iff.1 h
        exact .inl (isDigit_of_exponentAfter he hc)

/-! ## Words and signs -/

/-- The words for infinity and for what is not a number. -/
def numberWords : List (List Char) := ["inf".toList, "infinity".toList, "nan".toList]

/-- A number is a word in any case or has a magnitude, and there may be a sign in front. -/
theorem readNumber_eq_ok (h : readNumber cs = .ok v) :
    ∃ negative rest, (cs = rest ∨ cs = '+' :: rest ∨ cs = '-' :: rest) ∧
      (rest.map Char.toLower ∈ numberWords ∨ ∃ w, readMagnitude negative rest = some w) := by
  have hword : ∀ {rest : List Char} {word : String},
      (String.ofList (rest.map Char.toLower) == word) = true →
        rest.map Char.toLower = word.toList := by
    intro rest word hword
    rw [← beq_iff_eq.1 hword, String.toList_ofList]
  unfold readNumber at h
  split at h
  · nomatch h
  · split at h
    next negative rest hsplit =>
    refine ⟨negative, rest, ?_, ?_⟩
    · split at hsplit
      all_goals obtain ⟨-, rfl⟩ := Prod.mk.inj hsplit
      · exact .inr (.inl rfl)
      · exact .inr (.inr rfl)
      · exact .inl rfl
    · dsimp only at h
      split at h
      · next hinfinite =>
        rcases Bool.or_eq_true_iff.1 hinfinite with hinf | hinf
        all_goals simp [numberWords, hword hinf]
      · split at h
        · next hnan => simp [numberWords, hword hnan]
        · split at h
          · next w hw => exact .inr ⟨w, hw⟩
          · nomatch h

/-- A number ends with a digit or a point, or as one of the words does. -/
theorem endsNumber (h : readNumber cs = .ok v) (hc : cs.getLast? = some c) :
    c.isDigit = true ∨ c = '.' ∨ c.toLower ∈ ['f', 'y', 'n'] := by
  obtain ⟨negative, rest, hcs, hrest⟩ := readNumber_eq_ok h
  have hne : rest ≠ [] := by
    rintro rfl
    rcases hrest with hword | ⟨w, hw⟩
    · exact absurd hword (by decide)
    · nomatch hw
  have hlast : rest.getLast? = some c := by
    rcases hcs with rfl | rfl | rfl
    · exact hc
    · exact getLast?_of_cons hne hc
    · exact getLast?_of_cons hne hc
  rcases hrest with hword | ⟨w, hw⟩
  · have hends : ∀ word ∈ numberWords, word.getLast? ∈ ['f', 'y', 'n'].map some := by decide
    have hlower := hends _ hword
    rw [List.getLast?_map, hlast] at hlower
    exact .inr (.inr (by simpa using hlower))
  · rcases endsMagnitude hw hlast with hdigit | hpoint
    · exact .inl hdigit
    · exact .inr (.inl hpoint)

/-! ## Beginnings -/

theorem startsMagnitude {negative : Bool} (h : readMagnitude negative (c :: cs) = some v) :
    c.isDigit = true ∨ c = '.' := by
  by_cases hdigit : c.isDigit = true
  · exact .inl hdigit
  · by_cases hpoint : c = '.'
    · exact .inr hpoint
    · unfold readMagnitude at h
      simp [hdigit, hpoint] at h

/-- A number begins with a digit, a sign or a point, or as one of the words does. -/
theorem startsNumber (h : readNumber (c :: cs) = .ok v) :
    c = '+' ∨ c = '-' ∨ c.isDigit = true ∨ c = '.' ∨ c.toLower ∈ ['i', 'n'] := by
  obtain ⟨negative, rest, hcs, hrest⟩ := readNumber_eq_ok h
  rcases hcs with rfl | hcs | hcs
  · rcases hrest with hword | ⟨w, hw⟩
    · have hstarts : ∀ word ∈ numberWords, word.head? ∈ ['i', 'n'].map some := by decide
      have hlower := hstarts _ hword
      exact .inr (.inr (.inr (.inr (by simpa using hlower))))
    · exact .inr (.inr ((startsMagnitude hw).imp_right .inl))
  · exact .inl (List.cons.inj hcs).1
  · exact .inr (.inl (List.cons.inj hcs).1)

end Switchboard.Decimal
