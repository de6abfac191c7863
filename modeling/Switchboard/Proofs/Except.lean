/-!
# Computations that succeed
-/

namespace Switchboard

variable {ε α β : Type} {x : Except ε α} {f : α → Except ε β} {b : β}

/-- What a computation that succeeds has come by. -/
theorem Except.exists_of_bind_eq_ok (h : (x >>= f) = .ok b) : ∃ a, x = .ok a ∧ f a = .ok b := by
  cases x with
  | ok a => exact ⟨a, rfl, h⟩
  | error e => nomatch h

theorem Except.of_mapError_eq_ok {ε' : Type} {m : ε → ε'} {a : α} (h : x.mapError m = .ok a) :
    x = .ok a := by
  cases x with
  | ok a' => exact congrArg _ (Except.ok.inj h)
  | error e => nomatch h

theorem Except.map_eq_ok_iff {g : α → β} : x.map g = .ok b ↔ ∃ a, x = .ok a ∧ g a = b := by
  cases x with
  | ok a => simp [Except.map]
  | error e => simp [Except.map]

theorem Except.exists_of_map_eq {x' : Except ε α} {m : α → β} {a : α} (h : x.map m = x'.map m)
    (hx : x = .ok a) : ∃ a', x' = .ok a' ∧ m a = m a' := by
  subst hx
  cases x' with
  | error e => nomatch h
  | ok a' => exact ⟨a', rfl, Except.ok.inj h⟩

/-- Computations whose results go by the same names go on to such results when all that follows does. -/
theorem Except.map_bind_congr {γ δ : Type} {x' : Except ε α} {m : α → γ} {n : β → δ}
    {f' : α → Except ε β} (hx : x.map m = x'.map m)
    (hf : ∀ a a', m a = m a' → (f a).map n = (f' a').map n) :
    (x >>= f).map n = (x' >>= f').map n := by
  cases x with
  | error e =>
    cases x' with
    | error e' => exact congrArg Except.error (Except.error.inj hx)
    | ok a' => nomatch hx
  | ok a =>
    cases x' with
    | error e' => nomatch hx
    | ok a' => exact hf a a' (Except.ok.inj hx)

end Switchboard
