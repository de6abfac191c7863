import Switchboard.Cancellation

/-!
# Cancelled for good

What is done to tokens takes no cancellation back, and a token is cancelled by its own name or with
the one that it was made of.
-/

namespace Switchboard

variable {tokens : Cancellations} {token : Token}

theorem Token.eq_of_path_eq {other : Token} (h : token.path = other.path) : token = other := by
  cases token
  exact congrArg mk h

theorem Cancellations.isCancelled_iff :
    tokens.isCancelled token = true ↔ ∃ t ∈ tokens.cancelled, t.path <:+ token.path := by
  simp only [isCancelled, List.any_eq_true, List.isSuffixOf_iff_suffix]

/-- What lies below a token that has been cancelled is cancelled with it. -/
theorem Cancellations.isCancelled_of_isSuffix {other : Token}
    (h : tokens.isCancelled token = true) (hbelow : token.path <:+ other.path) :
    tokens.isCancelled other = true := by
  rw [isCancelled_iff] at h ⊢
  obtain ⟨t, ht, hsuffix⟩ := h
  exact ⟨t, ht, hsuffix.trans hbelow⟩

/-- A token is cancelled by its own name, or with the token above it. -/
theorem Cancellations.isCancelled_cons_iff {k : Nat} :
    tokens.isCancelled ⟨k :: token.path⟩ = true ↔
      ⟨k :: token.path⟩ ∈ tokens.cancelled ∨ tokens.isCancelled token = true := by
  simp only [isCancelled_iff]
  constructor
  · rintro ⟨t, ht, hsuffix⟩
    rcases List.suffix_cons_iff.1 hsuffix with heq | hsuffix
    · exact .inl (Token.eq_of_path_eq heq ▸ ht)
    · exact .inr ⟨t, ht, hsuffix⟩
  · rintro (h | ⟨t, ht, hsuffix⟩)
    · exact ⟨_, h, List.suffix_rfl⟩
    · exact ⟨t, ht, hsuffix.trans (List.suffix_cons k _)⟩

theorem Cancellations.isCancelled_cancel (other : Token) (h : tokens.isCancelled token = true) :
    (tokens.cancel other).isCancelled token = true := by
  simp only [isCancelled, cancel, List.any_cons] at h ⊢
  rw [h, Bool.or_true]

theorem StopSignal.isCancelled_begin (context : Token) (h : tokens.isCancelled token = true) :
    (begin tokens context).2.2.isCancelled token = true := h

theorem StopSignal.isCancelled_stop (signal : StopSignal) (h : tokens.isCancelled token = true) :
    (signal.stop tokens).2.isCancelled token = true := by
  simp only [stop]
  split
  · exact Cancellations.isCancelled_cancel _ h
  · exact h

end Switchboard
