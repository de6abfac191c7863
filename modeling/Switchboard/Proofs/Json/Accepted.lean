import Switchboard.Proofs.Json.Numbers
import Switchboard.Proofs.Json.Parts

/-!
# What values have been read

A value that has been read is well formed and not too deep. What is asked of the bytes of a document
goes on to hold of those that are left when a part has been taken, if it does so for single bytes,
strings and numbers; `Lasts` says this, together with what it means for the numbers that are read.
-/

namespace Switchboard.Json

variable {α : Type} {bytes rest : Bytes} {bound depth : Nat} {first : Bool}

/-! ## What lasts -/

/-- What is said of the bytes of a document goes on to hold of the bytes that are left when a part
has been taken, and the numbers that are taken are of a kind. A byte is taken that begins neither a
string nor a number. A string is taken. A number with a sign is taken. A number without a sign is
taken. -/
structure Lasts (I : Bytes → Prop) (N : JsonNumber → Prop) : Prop where
  byte : ∀ b rest, b ≠ 0x22 → b ≠ 0x2D → isDigit b = false → I (b :: rest) → I rest
  string : ∀ tail s rest, I (0x22 :: tail) → readString tail = .ok (s, rest) → I rest
  negative : ∀ tail n rest, I (0x2D :: tail) → readNumber true tail = .ok (n, rest) → N n ∧ I rest
  digits : ∀ b tail n rest, isDigit b = true → I (b :: tail) →
    readNumber false (b :: tail) = .ok (n, rest) → N n ∧ I rest

namespace Lasts

variable {I : Bytes → Prop} {N : JsonNumber → Prop}

theorem skipSpace (h : Lasts I N) (hbytes : I bytes) : I (skipSpace bytes) := by
  induction bytes with
  | nil => exact hbytes
  | cons b rest ih =>
    rw [Json.skipSpace, List.dropWhile_cons]
    split
    · next hb =>
      have hne : ∀ c, isSpace c = false → b ≠ c := by
        rintro c hc rfl
        rw [hb] at hc
        cases hc
      have hdigit : isDigit b = false := by
        rw [← Bool.not_eq_true]
        intro hdigit
        simp only [isSpace, Bool.or_eq_true, beq_iff_eq] at hb
        rcases hb with ((rfl | rfl) | rfl) | rfl <;> cases hdigit
      exact ih (h.byte b rest (hne _ rfl) (hne _ rfl) hdigit hbytes)
    · exact hbytes

/-- One more byte is taken off after blanks. -/
theorem of_skipSpace_eq (h : Lasts I N) {b : UInt8} {tail : Bytes}
    (hspace : Json.skipSpace bytes = b :: tail) (hbytes : I bytes) (hquote : b ≠ 0x22)
    (hminus : b ≠ 0x2D) (hdigit : isDigit b = false) : I tail :=
  h.byte b tail hquote hminus hdigit (hspace ▸ h.skipSpace hbytes)

theorem nextItem (h : Lasts I N) (hnext : nextItem first bytes = .ok (.part, rest))
    (hbytes : I bytes) : I rest := by
  rcases (nextItem_eq_part hnext).2 with ⟨-, rfl⟩ | ⟨-, tail, hspace, rfl⟩
  · exact h.skipSpace hbytes
  · exact h.skipSpace (h.of_skipSpace_eq hspace hbytes (by decide) (by decide) rfl)

theorem nextKey (h : Lasts I N) (hnext : nextKey first bytes = .ok (.part, rest))
    (hbytes : I bytes) : I (0x22 :: rest) := by
  rcases nextKey_eq_part hnext with ⟨-, hspace⟩ | ⟨-, tail, hspace, hkey⟩
  · rw [← hspace]
    exact h.skipSpace hbytes
  · rw [← hkey]
    exact h.skipSpace (h.of_skipSpace_eq hspace hbytes (by decide) (by decide) rfl)

theorem items (h : Lasts I N) {item : Bytes → Except Stop (α × Bytes)} {P : α → Prop}
    (hitem : ∀ bytes x rest, I bytes → item bytes = .ok (x, rest) → P x ∧ I rest) {xs : List α}
    (hitems : Items item first bytes xs rest) (hbytes : I bytes) : (∀ x ∈ xs, P x) ∧ I rest := by
  induction hitems with
  | close hspace =>
    exact ⟨nofun, h.of_skipSpace_eq hspace hbytes (by decide) (by decide) rfl⟩
  | part hnext hread _ ih =>
    obtain ⟨hx, hafter⟩ := hitem _ _ _ (h.nextItem hnext hbytes) hread
    obtain ⟨hxs, hrest⟩ := ih hafter
    exact ⟨List.forall_mem_cons.2 ⟨hx, hxs⟩, hrest⟩

theorem fields (h : Lasts I N) {value : Bytes → Except Stop (α × Bytes)} {P : α → Prop}
    (hvalue : ∀ bytes x rest, I bytes → value bytes = .ok (x, rest) → P x ∧ I rest)
    {fields : List (String × α)} (hfields : Fields value first bytes fields rest)
    (hbytes : I bytes) : (∀ field ∈ fields, P field.2) ∧ I rest := by
  induction hfields with
  | close hspace =>
    exact ⟨nofun, h.of_skipSpace_eq hspace hbytes (by decide) (by decide) rfl⟩
  | part hnext hkey hcolon hread _ ih =>
    have hafter := h.string _ _ _ (h.nextKey hnext hbytes) hkey
    have hcolon := h.of_skipSpace_eq (readColon_eq_ok hcolon) hafter (by decide) (by decide) rfl
    obtain ⟨hx, hmore⟩ := hvalue _ _ _ hcolon hread
    obtain ⟨hfields, hrest⟩ := ih hmore
    exact ⟨List.forall_mem_cons.2 ⟨hx, hfields⟩, hrest⟩

theorem word (h : Lasts I N) (word : Bytes)
    (hword : word.all (fun b => b != 0x22 && b != 0x2D && !isDigit b) = true)
    (hbytes : I (word ++ rest)) : I rest := by
  induction word with
  | nil => exact hbytes
  | cons b word ih =>
    simp only [List.all_cons, Bool.and_eq_true, bne_iff_ne, Bool.not_eq_true'] at hword
    obtain ⟨⟨⟨hquote, hminus⟩, hdigit⟩, hword⟩ := hword
    exact ih hword (h.byte b _ hquote hminus hdigit hbytes)

theorem scalar (h : Lasts I N) {v : Json} (hv : Scalar bytes v rest) (hbytes : I bytes) :
    (WellFormed N v ∧ v.depth = 0) ∧ I rest := by
  cases hv with
  | null => exact ⟨⟨.null, rfl⟩, h.word [0x6E, 0x75, 0x6C, 0x6C] rfl hbytes⟩
  | true => exact ⟨⟨.bool _, rfl⟩, h.word [0x74, 0x72, 0x75, 0x65] rfl hbytes⟩
  | false => exact ⟨⟨.bool _, rfl⟩, h.word [0x66, 0x61, 0x6C, 0x73, 0x65] rfl hbytes⟩
  | negative hn =>
    obtain ⟨hn, hrest⟩ := h.negative _ _ _ hbytes hn
    exact ⟨⟨.number hn, rfl⟩, hrest⟩
  | digits hb hn =>
    obtain ⟨hn, hrest⟩ := h.digits _ _ _ _ hb hbytes hn
    exact ⟨⟨.number hn, rfl⟩, hrest⟩
  | string hs => exact ⟨⟨.string _, rfl⟩, h.string _ _ _ hbytes hs⟩

/-- A value that has been read is well formed and no deeper than allowed, and its numbers are of the
kind. -/
theorem value (h : Lasts I N) {v : Json} (hv : readValue bound depth bytes = .ok (v, rest))
    (hbytes : I bytes) : (WellFormed N v ∧ v.depth ≤ depth) ∧ I rest := by
  induction depth generalizing bytes v rest with
  | zero =>
    rcases readValue_eq_ok hv with hscalar | ⟨inner, tail, hdepth, -⟩
    · obtain ⟨⟨hform, hdepth⟩, hrest⟩ := h.scalar hscalar (h.skipSpace hbytes)
      exact ⟨⟨hform, hdepth.le⟩, hrest⟩
    · cases hdepth
  | succ depth ih =>
    rcases readValue_eq_ok hv with hscalar | ⟨inner, tail, hdepth, hparts⟩
    · obtain ⟨⟨hform, hdepth⟩, hrest⟩ := h.scalar hscalar (h.skipSpace hbytes)
      exact ⟨⟨hform, hdepth ▸ Nat.zero_le _⟩, hrest⟩
    · obtain rfl := Nat.succ.inj hdepth
      rcases hparts with ⟨items, hspace, rfl, hitems⟩ | ⟨pairs, hspace, rfl, hpairs⟩
      · have htail := h.of_skipSpace_eq hspace hbytes (by decide) (by decide) rfl
        obtain ⟨hall, hrest⟩ := h.items
          (P := fun v => WellFormed N v ∧ v.depth ≤ depth)
          (fun bytes x rest hbytes hx => ih hx hbytes) hitems htail
        refine ⟨⟨.array fun item hitem => (hall item hitem).1, ?_⟩, hrest⟩
        exact Nat.succ_le_succ (depthItems_le_iff.2 fun item hitem => (hall item hitem).2)
      · have htail := h.of_skipSpace_eq hspace hbytes (by decide) (by decide) rfl
        obtain ⟨hall, hrest⟩ := h.fields
          (P := fun v => WellFormed N v ∧ v.depth ≤ depth)
          (fun bytes x rest hbytes hx => ih hx hbytes) hpairs htail
        refine ⟨⟨.object (Table.sorted_ofList _) fun field hfield =>
          (hall field (Table.mem_of_mem_ofList hfield)).1, ?_⟩, hrest⟩
        exact Nat.succ_le_succ (depthFields_le_iff.2 fun field hfield =>
          (hall field (Table.mem_of_mem_ofList hfield)).2)

end Lasts

/-! ## Any document -/

theorem exists_float_of_scaledNumber {negative : Bool} {significand : Nat} {exponent : Int}
    {n : JsonNumber} (h : scaledNumber negative significand exponent bytes = .ok (n, rest)) :
    ∃ f, n = .float f := by
  unfold scaledNumber at h
  split at h
  · exact ⟨_, (Prod.mk.inj (Except.ok.inj h)).1.symm⟩
  · cases h

theorem exists_float_of_exponentDigits {negative down : Bool} {significand exponent : Nat}
    {start : Int} {n : JsonNumber}
    (h : exponentDigits negative significand start down exponent bytes = .ok (n, rest)) :
    ∃ f, n = .float f := by
  induction bytes generalizing exponent with
  | nil => exact exists_float_of_scaledNumber h
  | cons b tail ih =>
    rw [exponentDigits] at h
    split at h
    · exact exists_float_of_scaledNumber h
    split at h
    · exact ih h
    split at h
    · cases h
    · exact ⟨_, (Prod.mk.inj (Except.ok.inj h)).1.symm⟩

/-- Reads the digits of an exponent, where one must stand. -/
def startExponent (negative : Bool) (significand : Nat) (start : Int) (down : Bool) :
    Bytes → Except Stop (JsonNumber × Bytes)
  | [] => .error (.after .endInValue [])
  | b :: rest =>
    if isDigit b then exponentDigits negative significand start down (digitValue b) rest
    else .error (.after .invalidNumber rest)

theorem startExponent_eq_ok {negative down : Bool} {significand : Nat} {start : Int} {n : JsonNumber}
    (h : startExponent negative significand start down bytes = .ok (n, rest)) :
    ∃ b tail, bytes = b :: tail ∧ isDigit b = true ∧
      exponentDigits negative significand start down (digitValue b) tail = .ok (n, rest) := by
  cases bytes with
  | nil => cases h
  | cons b tail =>
    rw [startExponent] at h
    split at h
    · next hb => exact ⟨b, tail, rfl, hb, h⟩
    · cases h

/-- The digits of an exponent come after its sign, if it has one. -/
theorem readExponent_eq_ok {negative : Bool} {significand : Nat} {start : Int} {n : JsonNumber}
    (h : readExponent negative significand start bytes = .ok (n, rest)) :
    ∃ down b tail, (bytes = b :: tail ∨ bytes = 0x2B :: b :: tail ∨ bytes = 0x2D :: b :: tail) ∧
      isDigit b = true ∧
      exponentDigits negative significand start down (digitValue b) tail = .ok (n, rest) := by
  unfold readExponent at h
  split at h
  next down digits hsplit =>
  obtain ⟨b, tail, rfl, hb, hread⟩ := startExponent_eq_ok h
  refine ⟨down, b, tail, ?_, hb, hread⟩
  split at hsplit
  · obtain ⟨-, rfl⟩ := Prod.mk.inj hsplit
    exact .inr (.inl rfl)
  · obtain ⟨-, rfl⟩ := Prod.mk.inj hsplit
    exact .inr (.inr rfl)
  · obtain ⟨-, rfl⟩ := Prod.mk.inj hsplit
    exact .inl rfl

theorem exists_float_of_readExponent {negative : Bool} {significand : Nat} {start : Int}
    {n : JsonNumber} (h : readExponent negative significand start bytes = .ok (n, rest)) :
    ∃ f, n = .float f := by
  obtain ⟨down, b, tail, -, -, hdigits⟩ := readExponent_eq_ok h
  exact exists_float_of_exponentDigits hdigits

theorem exists_float_of_readFraction {negative : Bool} {significand : Nat} {start : Int}
    {n : JsonNumber} (h : readFraction negative significand start bytes = .ok (n, rest)) :
    ∃ f, n = .float f := by
  simp only [readFraction] at h
  split at h
  · cases h
  split at h
  · cases h
  split at h
  · exact exists_float_of_readExponent h
  · exact exists_float_of_scaledNumber h

theorem fits_of_readAfterInteger {negative long : Bool} {value start : Nat} {n : JsonNumber}
    (h : readAfterInteger negative value long start bytes = .ok (n, rest))
    (hvalue : value < 0x10000000000000000) : n.Fits := by
  have hfloat : (∃ f, n = .float f) → n.Fits := by
    rintro ⟨f, rfl⟩
    trivial
  unfold readAfterInteger at h
  split at h
  · exact hfloat (exists_float_of_readFraction h)
  split at h
  · exact hfloat (exists_float_of_readExponent h)
  split at h
  · exact hfloat (exists_float_of_scaledNumber h)
  split at h
  · obtain rfl := (Prod.mk.inj (Except.ok.inj h)).1
    exact ⟨by omega, by omega⟩
  split at h
  · next hrange =>
    obtain rfl := (Prod.mk.inj (Except.ok.inj h)).1
    exact ⟨by omega, by omega⟩
  · exact hfloat ⟨_, (Prod.mk.inj (Except.ok.inj h)).1.symm⟩

theorem keepDigits_fst_lt {value count : Nat} (hvalue : value < 0x10000000000000000) :
    (keepDigits value count bytes).1 < 0x10000000000000000 := by
  induction bytes generalizing value count with
  | nil => exact hvalue
  | cons b tail ih =>
    rw [keepDigits]
    split
    · next hkept => exact ih hkept.2
    · exact hvalue

theorem fits_of_readNumber {negative : Bool} {n : JsonNumber}
    (h : readNumber negative bytes = .ok (n, rest)) : n.Fits := by
  cases bytes with
  | nil => cases h
  | cons b tail =>
    rw [readNumber] at h
    split at h
    · split at h
      · cases h
      · exact fits_of_readAfterInteger h (by decide)
    split at h
    · next hdigit =>
      have hb := (isDigit_iff.1 hdigit).2
      have hfirst : digitValue b < 0x10000000000000000 := by
        rw [digitValue]
        omega
      exact fits_of_readAfterInteger h (keepDigits_fst_lt hfirst)
    · cases h

/-- Of any document nothing lasts but that its integers are of 64 bits. -/
theorem lasts_fits : Lasts (fun _ => True) JsonNumber.Fits where
  byte _ _ _ _ _ _ := trivial
  string _ _ _ _ _ := trivial
  negative _ _ _ _ h := ⟨fits_of_readNumber h, trivial⟩
  digits _ _ _ _ _ _ h := ⟨fits_of_readNumber h, trivial⟩

end Switchboard.Json
