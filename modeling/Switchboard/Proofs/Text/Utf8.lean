import Switchboard.Text.Utf8

/-!
# Decoding and encoding UTF-8

Strict decoding gives a text exactly for the bytes that encode it. Both directions rest on the front
of a byte string: it is a scalar value exactly when the byte string begins with its bytes.
-/

namespace Switchboard.Utf8

/-! ## Bytes as numbers -/

theorem Lead.of?_eq (b : UInt8) :
    Lead.of? b =
      if b.toNat < 0xC2 then none
      else if b.toNat < 0xE0 then some ⟨1, 0x80, 0xBF, b.toNat - 0xC0⟩
      else if b.toNat = 0xE0 then some ⟨2, 0xA0, 0xBF, 0⟩
      else if b.toNat = 0xED then some ⟨2, 0x80, 0x9F, 0xD⟩
      else if b.toNat < 0xF0 then some ⟨2, 0x80, 0xBF, b.toNat - 0xE0⟩
      else if b.toNat = 0xF0 then some ⟨3, 0x90, 0xBF, 0⟩
      else if b.toNat < 0xF4 then some ⟨3, 0x80, 0xBF, b.toNat - 0xF0⟩
      else if b.toNat = 0xF4 then some ⟨3, 0x80, 0x8F, 4⟩
      else none := by
  simp only [Lead.of?, UInt8.lt_iff_toNat_lt, ← UInt8.toNat_inj]
  rfl

theorem continuation_cons (more : Nat) (low high : UInt8) (code size : Nat) (b : UInt8)
    (rest : Bytes) :
    continuation (more + 1) low high code size (b :: rest) =
      if low.toNat ≤ b.toNat ∧ b.toNat ≤ high.toNat then
        continuation more 0x80 0xBF (code * 64 + (b.toNat - 0x80)) (size + 1) rest
      else .broken size (b :: rest) := by
  simp only [continuation, UInt8.le_iff_toNat_le]

theorem front_eq (b : UInt8) (rest : Bytes) :
    front b rest =
      if b.toNat < 0x80 then .scalar (Char.ofNat b.toNat) rest
      else
        match Lead.of? b with
        | some lead => continuation lead.more lead.low lead.high lead.code 1 rest
        | none => .broken 1 rest := by
  simp only [front, UInt8.lt_iff_toNat_lt]
  rfl

/-! ## The front of a sequence -/

/-- The second byte of a sequence of three keeps to the range that the first leaves it. -/
def SecondOfThree (a b : Nat) : Prop :=
  0x80 ≤ b ∧ b ≤ 0xBF ∧ (a = 0xE0 → 0xA0 ≤ b) ∧ (a = 0xED → b ≤ 0x9F)

/-- The second byte of a sequence of four keeps to the range that the first leaves it. -/
def SecondOfFour (a b : Nat) : Prop :=
  0x80 ≤ b ∧ b ≤ 0xBF ∧ (a = 0xF0 → 0x90 ≤ b) ∧ (a = 0xF4 → b ≤ 0x8F)

variable {a b c d : UInt8}

theorem Lead.of?_two (ha : 0xC2 ≤ a.toNat) (ha' : a.toNat < 0xE0) :
    Lead.of? a = some ⟨1, 0x80, 0xBF, a.toNat - 0xC0⟩ := by
  rw [Lead.of?_eq, if_neg (by omega), if_pos ha']

/-- A first byte of three leaves its range to the second. -/
theorem Lead.of?_three (ha : 0xE0 ≤ a.toNat) (ha' : a.toNat < 0xF0) :
    ∃ low high : UInt8, Lead.of? a = some ⟨2, low, high, a.toNat - 0xE0⟩ ∧
      ∀ b : UInt8, low.toNat ≤ b.toNat ∧ b.toNat ≤ high.toNat ↔
        SecondOfThree a.toNat b.toNat := by
  rw [Lead.of?_eq, if_neg (by omega), if_neg (by omega)]
  by_cases h1 : a.toNat = 0xE0
  · rw [if_pos h1]
    refine ⟨0xA0, 0xBF, by rw [h1], fun b => ?_⟩
    change 0xA0 ≤ b.toNat ∧ b.toNat ≤ 0xBF ↔ _
    simp only [SecondOfThree]
    omega
  · rw [if_neg h1]
    by_cases h2 : a.toNat = 0xED
    · rw [if_pos h2]
      refine ⟨0x80, 0x9F, by rw [h2], fun b => ?_⟩
      change 0x80 ≤ b.toNat ∧ b.toNat ≤ 0x9F ↔ _
      simp only [SecondOfThree]
      omega
    · rw [if_neg h2, if_pos ha']
      refine ⟨0x80, 0xBF, rfl, fun b => ?_⟩
      change 0x80 ≤ b.toNat ∧ b.toNat ≤ 0xBF ↔ _
      simp only [SecondOfThree]
      omega

/-- A first byte of four leaves its range to the second. -/
theorem Lead.of?_four (ha : 0xF0 ≤ a.toNat) (ha' : a.toNat ≤ 0xF4) :
    ∃ low high : UInt8, Lead.of? a = some ⟨3, low, high, a.toNat - 0xF0⟩ ∧
      ∀ b : UInt8, low.toNat ≤ b.toNat ∧ b.toNat ≤ high.toNat ↔
        SecondOfFour a.toNat b.toNat := by
  rw [Lead.of?_eq, if_neg (by omega), if_neg (by omega), if_neg (by omega), if_neg (by omega),
    if_neg (by omega)]
  by_cases h1 : a.toNat = 0xF0
  · rw [if_pos h1]
    refine ⟨0x90, 0xBF, by rw [h1], fun b => ?_⟩
    change 0x90 ≤ b.toNat ∧ b.toNat ≤ 0xBF ↔ _
    simp only [SecondOfFour]
    omega
  · rw [if_neg h1]
    by_cases h2 : a.toNat = 0xF4
    · rw [if_neg (by omega), if_pos h2]
      refine ⟨0x80, 0x8F, by rw [h2], fun b => ?_⟩
      change 0x80 ≤ b.toNat ∧ b.toNat ≤ 0x8F ↔ _
      simp only [SecondOfFour]
      omega
    · rw [if_pos (by omega)]
      refine ⟨0x80, 0xBF, rfl, fun b => ?_⟩
      change 0x80 ≤ b.toNat ∧ b.toNat ≤ 0xBF ↔ _
      simp only [SecondOfFour]
      omega

theorem Lead.of?_eq_none (ha : a.toNat < 0xC2 ∨ 0xF4 < a.toNat) : Lead.of? a = none := by
  rw [Lead.of?_eq]
  rcases ha with ha | ha
  · rw [if_pos ha]
  · rw [if_neg (by omega), if_neg (by omega), if_neg (by omega), if_neg (by omega),
      if_neg (by omega), if_neg (by omega), if_neg (by omega), if_neg (by omega)]

theorem front_one (ha : a.toNat < 0x80) (rest : Bytes) :
    front a rest = .scalar (Char.ofNat a.toNat) rest := by
  rw [front_eq, if_pos ha]

theorem front_two (ha : 0xC2 ≤ a.toNat) (ha' : a.toNat < 0xE0) (hb : IsContinuation b)
    (rest : Bytes) :
    front a (b :: rest) =
      .scalar (Char.ofNat ((a.toNat - 0xC0) * 64 + (b.toNat - 0x80))) rest := by
  rw [front_eq, if_neg (by omega), Lead.of?_two ha ha']
  exact (continuation_cons ..).trans (if_pos hb)

theorem front_three (ha : 0xE0 ≤ a.toNat) (ha' : a.toNat < 0xF0)
    (hb : SecondOfThree a.toNat b.toNat) (hc : IsContinuation c) (rest : Bytes) :
    front a (b :: c :: rest) =
      .scalar (Char.ofNat
        (((a.toNat - 0xE0) * 64 + (b.toNat - 0x80)) * 64 + (c.toNat - 0x80))) rest := by
  obtain ⟨low, high, hlead, hrange⟩ := Lead.of?_three ha ha'
  rw [front_eq, if_neg (by omega), hlead]
  exact (continuation_cons ..).trans ((if_pos ((hrange b).2 hb)).trans
    ((continuation_cons ..).trans (if_pos hc)))

theorem front_four (ha : 0xF0 ≤ a.toNat) (ha' : a.toNat ≤ 0xF4)
    (hb : SecondOfFour a.toNat b.toNat) (hc : IsContinuation c) (hd : IsContinuation d)
    (rest : Bytes) :
    front a (b :: c :: d :: rest) =
      .scalar (Char.ofNat
        ((((a.toNat - 0xF0) * 64 + (b.toNat - 0x80)) * 64 + (c.toNat - 0x80)) * 64 +
          (d.toNat - 0x80))) rest := by
  obtain ⟨low, high, hlead, hrange⟩ := Lead.of?_four ha ha'
  rw [front_eq, if_neg (by omega), hlead]
  exact (continuation_cons ..).trans ((if_pos ((hrange b).2 hb)).trans
    ((continuation_cons ..).trans ((if_pos hc).trans ((continuation_cons ..).trans (if_pos hd)))))

/-! ## Encoding -/

/-- The numbers of scalar values. -/
theorem char_toNat_lt (c : Char) : c.toNat < 0xD800 ∨ 0xDFFF < c.toNat ∧ c.toNat < 0x110000 :=
  c.valid

theorem toNat_ofNat_of_lt {n : Nat} (h : n < 256) : (UInt8.ofNat n).toNat = n := by
  rw [UInt8.toNat_ofNat', Nat.mod_eq_of_lt h]

/-- The front of a byte string that begins with a scalar value. -/
theorem front_encodeChar (c : Char) (rest : Bytes) :
    ∃ b tail, encodeChar c ++ rest = b :: tail ∧ front b tail = .scalar c rest := by
  have hc := char_toNat_lt c
  have hof : ∀ n, n = c.toNat → Char.ofNat n = c := fun n hn => hn ▸ Char.ofNat_toNat c
  simp only [encodeChar]
  split
  · next h1 =>
    refine ⟨_, _, rfl, ?_⟩
    have ha : (UInt8.ofNat c.toNat).toNat = c.toNat := toNat_ofNat_of_lt (by omega)
    refine (front_one (by omega) rest).trans ?_
    rw [hof _ ha]
  · split
    · next h1 h2 =>
      refine ⟨_, _, rfl, ?_⟩
      have ha := toNat_ofNat_of_lt (show 0xC0 + c.toNat / 64 < 256 by omega)
      have hb := toNat_ofNat_of_lt (show 0x80 + c.toNat % 64 < 256 by omega)
      refine (front_two (by omega) (by omega) ⟨by omega, by omega⟩ rest).trans ?_
      rw [hof _ (by omega)]
    · split
      · next h1 h2 h3 =>
        refine ⟨_, _, rfl, ?_⟩
        have ha := toNat_ofNat_of_lt (show 0xE0 + c.toNat / 4096 < 256 by omega)
        have hb := toNat_ofNat_of_lt (show 0x80 + c.toNat / 64 % 64 < 256 by omega)
        have hc' := toNat_ofNat_of_lt (show 0x80 + c.toNat % 64 < 256 by omega)
        refine (front_three (by omega) (by omega) ⟨by omega, by omega, by omega, by omega⟩
          ⟨by omega, by omega⟩ rest).trans ?_
        rw [hof _ (by omega)]
      · next h1 h2 h3 =>
        refine ⟨_, _, rfl, ?_⟩
        have ha := toNat_ofNat_of_lt (show 0xF0 + c.toNat / 262144 < 256 by omega)
        have hb := toNat_ofNat_of_lt (show 0x80 + c.toNat / 4096 % 64 < 256 by omega)
        have hc' := toNat_ofNat_of_lt (show 0x80 + c.toNat / 64 % 64 < 256 by omega)
        have hd := toNat_ofNat_of_lt (show 0x80 + c.toNat % 64 < 256 by omega)
        refine (front_four (by omega) (by omega) ⟨by omega, by omega, by omega, by omega⟩
          ⟨by omega, by omega⟩ ⟨by omega, by omega⟩ rest).trans ?_
        rw [hof _ (by omega)]

/-! ## The scalar value at the front -/

theorem toNat_char_ofNat {n : Nat} (h : n < 0xD800 ∨ 0xDFFF < n ∧ n < 0x110000) :
    (Char.ofNat n).toNat = n := by
  rw [Char.ofNat, dif_pos h]
  rfl

theorem ofNat_eq_of_eq_toNat {n : Nat} (h : n = a.toNat) : UInt8.ofNat n = a := by
  rw [h, UInt8.ofNat_toNat]

theorem encodeChar_one (ha : a.toNat < 0x80) : encodeChar (Char.ofNat a.toNat) = [a] := by
  have hn := toNat_char_ofNat (n := a.toNat) (by omega)
  simp only [encodeChar, hn]
  rw [if_pos ha, UInt8.ofNat_toNat]

theorem encodeChar_two (ha : 0xC2 ≤ a.toNat) (ha' : a.toNat < 0xE0) (hb : IsContinuation b) :
    encodeChar (Char.ofNat ((a.toNat - 0xC0) * 64 + (b.toNat - 0x80))) = [a, b] := by
  obtain ⟨hlow, hhigh⟩ := hb
  generalize hn : (a.toNat - 0xC0) * 64 + (b.toNat - 0x80) = n
  have hc := toNat_char_ofNat (n := n) (by omega)
  simp only [encodeChar, hc]
  rw [if_neg (by omega), if_pos (by omega), ofNat_eq_of_eq_toNat (a := a) (by omega),
    ofNat_eq_of_eq_toNat (a := b) (by omega)]

theorem encodeChar_three (ha : 0xE0 ≤ a.toNat) (ha' : a.toNat < 0xF0)
    (hb : SecondOfThree a.toNat b.toNat) (hc : IsContinuation c) :
    encodeChar (Char.ofNat
      (((a.toNat - 0xE0) * 64 + (b.toNat - 0x80)) * 64 + (c.toNat - 0x80))) = [a, b, c] := by
  obtain ⟨hlow, hhigh, hleast, hgreatest⟩ := hb
  obtain ⟨hlow', hhigh'⟩ := hc
  generalize hn : ((a.toNat - 0xE0) * 64 + (b.toNat - 0x80)) * 64 + (c.toNat - 0x80) = n
  have hchar := toNat_char_ofNat (n := n) (by omega)
  simp only [encodeChar, hchar]
  rw [if_neg (by omega), if_neg (by omega), if_pos (by omega),
    ofNat_eq_of_eq_toNat (a := a) (by omega), ofNat_eq_of_eq_toNat (a := b) (by omega),
    ofNat_eq_of_eq_toNat (a := c) (by omega)]

theorem encodeChar_four (ha : 0xF0 ≤ a.toNat) (ha' : a.toNat ≤ 0xF4)
    (hb : SecondOfFour a.toNat b.toNat) (hc : IsContinuation c) (hd : IsContinuation d) :
    encodeChar (Char.ofNat
      ((((a.toNat - 0xF0) * 64 + (b.toNat - 0x80)) * 64 + (c.toNat - 0x80)) * 64 +
        (d.toNat - 0x80))) = [a, b, c, d] := by
  obtain ⟨hlow, hhigh, hleast, hgreatest⟩ := hb
  obtain ⟨hlow', hhigh'⟩ := hc
  obtain ⟨hlow'', hhigh''⟩ := hd
  generalize hn : (((a.toNat - 0xF0) * 64 + (b.toNat - 0x80)) * 64 + (c.toNat - 0x80)) * 64 +
    (d.toNat - 0x80) = n
  have hchar := toNat_char_ofNat (n := n) (by omega)
  simp only [encodeChar, hchar]
  rw [if_neg (by omega), if_neg (by omega), if_neg (by omega),
    ofNat_eq_of_eq_toNat (a := a) (by omega), ofNat_eq_of_eq_toNat (a := b) (by omega),
    ofNat_eq_of_eq_toNat (a := c) (by omega), ofNat_eq_of_eq_toNat (a := d) (by omega)]

/-- What a continuation that ends well has read. -/
theorem continuation_eq_scalar {more : Nat} {low high : UInt8} {code size : Nat}
    {bytes rest : Bytes} {ch : Char}
    (h : continuation (more + 1) low high code size bytes = .scalar ch rest) :
    ∃ b tail, bytes = b :: tail ∧ (low.toNat ≤ b.toNat ∧ b.toNat ≤ high.toNat) ∧
      continuation more 0x80 0xBF (code * 64 + (b.toNat - 0x80)) (size + 1) tail =
        .scalar ch rest := by
  cases bytes with
  | nil => nomatch h
  | cons b tail =>
    rw [continuation_cons] at h
    split at h
    · next hb => exact ⟨b, tail, rfl, hb, h⟩
    · nomatch h

/-- A byte string whose front is a scalar value begins with its bytes. -/
theorem eq_append_of_front {rest rest' : Bytes} {ch : Char} (h : front a rest = .scalar ch rest') :
    a :: rest = encodeChar ch ++ rest' := by
  rw [front_eq] at h
  by_cases h1 : a.toNat < 0x80
  · rw [if_pos h1] at h
    obtain ⟨rfl, rfl⟩ := Front.scalar.inj h
    rw [encodeChar_one h1]
    rfl
  rw [if_neg h1] at h
  by_cases hnone : a.toNat < 0xC2 ∨ 0xF4 < a.toNat
  · rw [Lead.of?_eq_none hnone] at h
    nomatch h
  by_cases h2 : a.toNat < 0xE0
  · rw [Lead.of?_two (by omega) h2] at h
    obtain ⟨b, tail, rfl, hb, h⟩ := continuation_eq_scalar h
    obtain ⟨rfl, rfl⟩ := Front.scalar.inj h
    rw [encodeChar_two (by omega) h2 hb]
    rfl
  by_cases h3 : a.toNat < 0xF0
  · obtain ⟨low, high, hlead, hrange⟩ := Lead.of?_three (by omega) h3
    rw [hlead] at h
    obtain ⟨b, tail, rfl, hb, h⟩ := continuation_eq_scalar h
    obtain ⟨c, tail, rfl, hc, h⟩ := continuation_eq_scalar h
    obtain ⟨rfl, rfl⟩ := Front.scalar.inj h
    rw [encodeChar_three (by omega) h3 ((hrange b).1 hb) hc]
    rfl
  · obtain ⟨low, high, hlead, hrange⟩ := Lead.of?_four (a := a) (by omega) (by omega)
    rw [hlead] at h
    obtain ⟨b, tail, rfl, hb, h⟩ := continuation_eq_scalar h
    obtain ⟨c, tail, rfl, hc, h⟩ := continuation_eq_scalar h
    obtain ⟨d, tail, rfl, hd, h⟩ := continuation_eq_scalar h
    obtain ⟨rfl, rfl⟩ := Front.scalar.inj h
    rw [encodeChar_four (by omega) (by omega) ((hrange b).1 hb) hc hd]
    rfl

/-! ## Texts -/

theorem encodeChars_cons (ch : Char) (cs : List Char) :
    encodeChars (ch :: cs) = encodeChar ch ++ encodeChars cs := List.flatMap_cons

theorem encodeChars_append (cs ds : List Char) :
    encodeChars (cs ++ ds) = encodeChars cs ++ encodeChars ds := List.flatMap_append

/-- What the front of the bytes of a text is. -/
theorem exists_front_of_eq_encodeChars {b : UInt8} {rest : Bytes} {cs : List Char}
    (h : b :: rest = encodeChars cs) :
    ∃ ch later, cs = ch :: later ∧ front b rest = .scalar ch (encodeChars later) := by
  cases cs with
  | nil => nomatch h
  | cons ch later =>
    obtain ⟨b', tail, hbytes, hfront⟩ := front_encodeChar ch (encodeChars later)
    rw [encodeChars_cons, hbytes] at h
    obtain ⟨rfl, rfl⟩ := List.cons.inj h
    exact ⟨ch, later, rfl, hfront⟩

/-- Strict decoding gives the scalar values of the bytes that encode them, and of no others. -/
theorem decodeFrom_eq_ok_iff {index : Nat} {done cs : List Char} {bytes : Bytes} :
    decodeFrom index done bytes = .ok cs ↔
      ∃ new, cs = done.reverse ++ new ∧ bytes = encodeChars new := by
  induction index, done, bytes using decodeFrom.induct with
  | case1 index done =>
    rw [decodeFrom]
    constructor
    · intro h
      obtain rfl := Except.ok.inj h
      exact ⟨[], (List.append_nil _).symm, rfl⟩
    · rintro ⟨new, rfl, hnew⟩
      cases new with
      | nil => rw [List.append_nil]
      | cons ch later =>
        obtain ⟨b, tail, hbytes, -⟩ := front_encodeChar ch (encodeChars later)
        rw [encodeChars_cons, hbytes] at hnew
        nomatch hnew
  | case2 index done b rest ch rest' hfront ih =>
    rw [decodeFrom]
    split
    · next ch' rest'' hfront' =>
      obtain ⟨rfl, rfl⟩ := Front.scalar.inj (hfront.symm.trans hfront')
      rw [ih]
      constructor
      · rintro ⟨new, rfl, rfl⟩
        refine ⟨ch :: new, by simp, ?_⟩
        rw [eq_append_of_front hfront, encodeChars_cons]
      · rintro ⟨new, rfl, hnew⟩
        obtain ⟨ch', later, rfl, hfront'⟩ := exists_front_of_eq_encodeChars hnew
        obtain ⟨rfl, rfl⟩ := Front.scalar.inj (hfront.symm.trans hfront')
        exact ⟨later, by simp, rfl⟩
    · next hfront' => nomatch hfront.symm.trans hfront'
    · next hfront' => nomatch hfront.symm.trans hfront'
  | case3 index done b rest size rest' hfront =>
    rw [decodeFrom]
    split
    · next hfront' => nomatch hfront.symm.trans hfront'
    · refine iff_of_false nofun ?_
      rintro ⟨new, -, hnew⟩
      obtain ⟨ch', later, -, hfront'⟩ := exists_front_of_eq_encodeChars hnew
      nomatch hfront.symm.trans hfront'
    · next hfront' => nomatch hfront.symm.trans hfront'
  | case4 index done b rest hfront =>
    rw [decodeFrom]
    split
    · next hfront' => nomatch hfront.symm.trans hfront'
    · next hfront' => nomatch hfront.symm.trans hfront'
    · refine iff_of_false nofun ?_
      rintro ⟨new, -, hnew⟩
      obtain ⟨ch', later, -, hfront'⟩ := exists_front_of_eq_encodeChars hnew
      nomatch hfront.symm.trans hfront'

theorem decodeChars_eq_ok_iff {bytes : Bytes} {cs : List Char} :
    decodeChars bytes = .ok cs ↔ bytes = encodeChars cs := by
  rw [decodeChars, decodeFrom_eq_ok_iff]
  simp

/-- Strict decoding gives the text that the bytes encode. -/
theorem decode_eq_ok_iff {bytes : Bytes} {s : String} : decode bytes = .ok s ↔ bytes = encode s := by
  rw [decode, encode, ← decodeChars_eq_ok_iff]
  cases decodeChars bytes with
  | error malformed => exact iff_of_false nofun nofun
  | ok cs =>
    simp only [Except.map]
    constructor
    · intro h
      rw [← Except.ok.inj h, String.toList_ofList]
    · intro h
      rw [Except.ok.inj h, String.ofList_toList]

/-! ## Bounds of characters -/

/-- The bytes of a text that begin with those of another are those of a text that begins with it. -/
theorem exists_append_of_encodeChars_append {front cs : List Char} {tail : Bytes}
    (h : encodeChars front ++ tail = encodeChars cs) :
    ∃ back, cs = front ++ back ∧ tail = encodeChars back := by
  induction front generalizing cs with
  | nil => exact ⟨cs, rfl, h⟩
  | cons ch front ih =>
    obtain ⟨b, rest, hbytes, hfront⟩ := front_encodeChar ch (encodeChars front ++ tail)
    rw [encodeChars_cons, List.append_assoc, hbytes] at h
    obtain ⟨ch', later, rfl, hfront'⟩ := exists_front_of_eq_encodeChars h
    obtain ⟨rfl, hlater⟩ := Front.scalar.inj (hfront.symm.trans hfront')
    obtain ⟨back, rfl, hback⟩ := ih hlater
    exact ⟨back, rfl, hback⟩

/-- A number of bytes of a text after which no character is left unfinished. -/
def IsBoundary (s : String) (n : Nat) : Prop :=
  ∃ front back, s.toList = front ++ back ∧ (encodeChars front).length = n

variable {s : String} {n start stop : Nat}

theorem IsBoundary.exists_take (h : IsBoundary s n) :
    ∃ front, (encode s).take n = encodeChars front := by
  obtain ⟨front, back, hs, rfl⟩ := h
  rw [encode, hs, encodeChars_append, List.take_left]
  exact ⟨front, rfl⟩

theorem isBoundary_of_take {front : List Char} (hn : n ≤ (encode s).length)
    (h : (encode s).take n = encodeChars front) : IsBoundary s n := by
  have hbytes : encodeChars front ++ (encode s).drop n = encodeChars s.toList := by
    rw [← h, List.take_append_drop, encode]
  obtain ⟨back, hs, -⟩ := exists_append_of_encodeChars_append hbytes
  refine ⟨front, back, hs, ?_⟩
  rw [← h, List.length_take, Nat.min_eq_left hn]

/-- The first bytes of a text are a text when they end at a bound. -/
theorem exists_decode_take_iff (hn : n ≤ (encode s).length) :
    (∃ t, decode ((encode s).take n) = .ok t) ↔ IsBoundary s n := by
  simp only [decode_eq_ok_iff]
  constructor
  · rintro ⟨t, ht⟩
    exact isBoundary_of_take hn ht
  · intro h
    obtain ⟨front, hfront⟩ := h.exists_take
    refine ⟨String.ofList front, ?_⟩
    rw [hfront, encode, String.toList_ofList]

/-- The bytes of a text from a bound on are a text when they end at a bound. -/
theorem exists_decode_drop_take_iff (hstart : IsBoundary s start) (hle : start ≤ stop)
    (hstop : stop ≤ (encode s).length) :
    (∃ t, decode (((encode s).take stop).drop start) = .ok t) ↔ IsBoundary s stop := by
  obtain ⟨front, hfront⟩ := hstart.exists_take
  have hparts : encodeChars front ++ ((encode s).take stop).drop start = (encode s).take stop := by
    rw [← hfront, ← Nat.min_eq_left hle, ← List.take_take, Nat.min_eq_left hle,
      List.take_append_drop]
  simp only [decode_eq_ok_iff]
  constructor
  · rintro ⟨t, ht⟩
    rw [ht, encode, ← encodeChars_append] at hparts
    exact isBoundary_of_take hstop hparts.symm
  · intro h
    obtain ⟨whole, hwhole⟩ := h.exists_take
    obtain ⟨back, -, hback⟩ := exists_append_of_encodeChars_append (hparts.trans hwhole)
    refine ⟨String.ofList back, ?_⟩
    rw [hback, encode, String.toList_ofList]

theorem length_encodeChar (c : Char) : (encodeChar c).length = c.utf8Size := by
  have hsize : c.utf8Size =
      if c.toNat ≤ 0x7F then 1 else if c.toNat ≤ 0x7FF then 2
      else if c.toNat ≤ 0xFFFF then 3 else 4 := by
    simp only [Char.utf8Size, UInt32.le_iff_toNat_le]
    rfl
  rw [hsize]
  simp only [encodeChar]
  by_cases h1 : c.toNat < 0x80
  · rw [if_pos h1, if_pos (by omega)]
    rfl
  · by_cases h2 : c.toNat < 0x800
    · rw [if_neg h1, if_pos h2, if_neg (by omega), if_pos (by omega)]
      rfl
    · by_cases h3 : c.toNat < 0x10000
      · rw [if_neg h1, if_neg h2, if_pos h3, if_neg (by omega), if_neg (by omega),
          if_pos (by omega)]
        rfl
      · rw [if_neg h1, if_neg h2, if_neg h3, if_neg (by omega), if_neg (by omega),
          if_neg (by omega)]
        rfl

/-- A text has as many bytes as its string. -/
theorem length_encode (s : String) : (encode s).length = s.utf8ByteSize := by
  have hlist : ∀ cs, (encodeChars cs).length = (String.ofList cs).utf8ByteSize := by
    intro cs
    induction cs with
    | nil => rfl
    | cons c cs ih =>
      rw [encodeChars_cons, List.length_append, ih, length_encodeChar, String.ofList_cons,
        String.utf8ByteSize_append, String.utf8ByteSize_singleton]
  rw [encode, hlist, String.ofList_toList]

end Switchboard.Utf8
