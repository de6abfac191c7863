import Switchboard.Bytes

/-!
# UTF-8

A byte string is cut into pieces: scalar values, ill-formed stretches, and at most one sequence
that the end of the input cuts short. An ill-formed stretch is as long as it can be while some
well-formed text still begins with it, so it has one to three bytes. Strict decoding stops at the
first piece that is not a scalar value and names its index; lossy decoding writes U+FFFD for each
such piece. `WellFormed` is the grammar of well-formed text, said without the decoder.
-/

namespace Switchboard.Utf8

/-- The one to four bytes of a scalar value. -/
def encodeChar (c : Char) : Bytes :=
  let n := c.toNat
  if n < 0x80 then
    [UInt8.ofNat n]
  else if n < 0x800 then
    [UInt8.ofNat (0xC0 + n / 64), UInt8.ofNat (0x80 + n % 64)]
  else if n < 0x10000 then
    [UInt8.ofNat (0xE0 + n / 4096), UInt8.ofNat (0x80 + n / 64 % 64), UInt8.ofNat (0x80 + n % 64)]
  else
    [UInt8.ofNat (0xF0 + n / 262144), UInt8.ofNat (0x80 + n / 4096 % 64),
      UInt8.ofNat (0x80 + n / 64 % 64), UInt8.ofNat (0x80 + n % 64)]

/-- The bytes of a text, scalar value by scalar value. -/
def encodeChars (cs : List Char) : Bytes := cs.flatMap encodeChar

/-- The bytes of a string. -/
def encode (s : String) : Bytes := encodeChars s.toList

/-- A byte that continues a sequence: `80` to `BF`. -/
def IsContinuation (b : UInt8) : Prop := 0x80 ≤ b.toNat ∧ b.toNat ≤ 0xBF

/-- The byte sequences of single scalar values: no overlong form, no surrogate, nothing above
U+10FFFF. -/
inductive Sequence : Bytes → Prop where
  | one {a : UInt8} : a.toNat ≤ 0x7F → Sequence [a]
  | two {a b : UInt8} : 0xC2 ≤ a.toNat → a.toNat ≤ 0xDF → IsContinuation b → Sequence [a, b]
  | threeLow {a b c : UInt8} : a.toNat = 0xE0 → 0xA0 ≤ b.toNat → b.toNat ≤ 0xBF →
      IsContinuation c → Sequence [a, b, c]
  | three {a b c : UInt8} : (0xE1 ≤ a.toNat ∧ a.toNat ≤ 0xEC) ∨ (0xEE ≤ a.toNat ∧ a.toNat ≤ 0xEF) →
      IsContinuation b → IsContinuation c → Sequence [a, b, c]
  | threeHigh {a b c : UInt8} : a.toNat = 0xED → 0x80 ≤ b.toNat → b.toNat ≤ 0x9F →
      IsContinuation c → Sequence [a, b, c]
  | fourLow {a b c d : UInt8} : a.toNat = 0xF0 → 0x90 ≤ b.toNat → b.toNat ≤ 0xBF →
      IsContinuation c → IsContinuation d → Sequence [a, b, c, d]
  | four {a b c d : UInt8} : 0xF1 ≤ a.toNat → a.toNat ≤ 0xF3 →
      IsContinuation b → IsContinuation c → IsContinuation d → Sequence [a, b, c, d]
  | fourHigh {a b c d : UInt8} : a.toNat = 0xF4 → 0x80 ≤ b.toNat → b.toNat ≤ 0x8F →
      IsContinuation c → IsContinuation d → Sequence [a, b, c, d]

/-- Well-formed text: sequences of scalar values, one after the other. -/
inductive WellFormed : Bytes → Prop where
  | nil : WellFormed []
  | cons {s rest : Bytes} : Sequence s → WellFormed rest → WellFormed (s ++ rest)

/-- What stands at the front of a non-empty byte string, and what follows it. -/
inductive Front where
  | scalar (c : Char) (rest : Bytes)
  | broken (size : Nat) (rest : Bytes)
  | cut

/-- Reads `more` continuation bytes, the first of them between `low` and `high`; `code` holds the
bits and `size` the bytes read so far. -/
def continuation : (more : Nat) → (low high : UInt8) → (code size : Nat) → Bytes → Front
  | 0, _, _, code, _, rest => .scalar (Char.ofNat code) rest
  | _ + 1, _, _, _, _, [] => .cut
  | more + 1, low, high, code, size, b :: rest =>
    if low ≤ b ∧ b ≤ high then
      continuation more 0x80 0xBF (code * 64 + (b.toNat - 0x80)) (size + 1) rest
    else
      .broken size (b :: rest)

/-- What the first byte of a longer sequence says of the bytes after it. `more` bytes follow, of
which the second lies between `low` and `high`; `code` are the bits of the first. -/
structure Lead where
  more : Nat
  low : UInt8
  high : UInt8
  code : Nat

/-- The first bytes of sequences of two to four bytes. -/
def Lead.of? (b : UInt8) : Option Lead :=
  if b < 0xC2 then none
  else if b < 0xE0 then some ⟨1, 0x80, 0xBF, b.toNat - 0xC0⟩
  else if b = 0xE0 then some ⟨2, 0xA0, 0xBF, 0⟩
  else if b = 0xED then some ⟨2, 0x80, 0x9F, 0xD⟩
  else if b < 0xF0 then some ⟨2, 0x80, 0xBF, b.toNat - 0xE0⟩
  else if b = 0xF0 then some ⟨3, 0x90, 0xBF, 0⟩
  else if b < 0xF4 then some ⟨3, 0x80, 0xBF, b.toNat - 0xF0⟩
  else if b = 0xF4 then some ⟨3, 0x80, 0x8F, 4⟩
  else none

/-- The front of `b :: rest`. -/
def front (b : UInt8) (rest : Bytes) : Front :=
  if b < 0x80 then
    .scalar (Char.ofNat b.toNat) rest
  else
    match Lead.of? b with
    | some lead => continuation lead.more lead.low lead.high lead.code 1 rest
    | none => .broken 1 rest

/-- The bytes after the front. -/
def Front.rest : Front → Bytes
  | .scalar _ rest => rest
  | .broken _ rest => rest
  | .cut => []

theorem continuation_rest_length_le (more : Nat) (low high : UInt8) (code size : Nat)
    (bytes : Bytes) :
    (continuation more low high code size bytes).rest.length ≤ bytes.length := by
  induction more generalizing low high code size bytes with
  | zero => simp [continuation, Front.rest]
  | succ more ih =>
    cases bytes with
    | nil => simp [continuation, Front.rest]
    | cons b rest =>
      simp only [continuation]
      split
      · exact Nat.le_succ_of_le (ih ..)
      · simp [Front.rest]

/-- The front takes at least the first byte. -/
theorem front_rest_length_le (b : UInt8) (rest : Bytes) :
    (front b rest).rest.length ≤ rest.length := by
  unfold front
  split
  · simp [Front.rest]
  · split
    · exact continuation_rest_length_le ..
    · simp [Front.rest]

theorem length_lt_of_front_scalar {b : UInt8} {rest rest' : Bytes} {c : Char}
    (h : front b rest = .scalar c rest') : rest'.length < (b :: rest).length := by
  have := front_rest_length_le b rest
  simp only [h, Front.rest] at this
  exact Nat.lt_succ_of_le this

theorem length_lt_of_front_broken {b : UInt8} {rest rest' : Bytes} {size : Nat}
    (h : front b rest = .broken size rest') : rest'.length < (b :: rest).length := by
  have := front_rest_length_le b rest
  simp only [h, Front.rest] at this
  exact Nat.lt_succ_of_le this

/-- Why a byte string is not text. The bytes before the index are well-formed text. The stretch has
no size when the input ends inside a sequence. -/
structure Malformed where
  index : Nat
  size : Option Nat
  deriving DecidableEq, Repr

/-- The wording of a decoding fault. -/
def Malformed.message : Malformed → String
  | ⟨index, some size⟩ => s!"invalid utf-8 sequence of {size} bytes from index {index}"
  | ⟨index, none⟩ => s!"incomplete utf-8 byte sequence from index {index}"

/-- Strict decoding from byte `index` on; `done` holds the scalar values so far, last first. -/
def decodeFrom (index : Nat) (done : List Char) : Bytes → Except Malformed (List Char)
  | [] => .ok done.reverse
  | b :: rest =>
    match _h : front b rest with
    | .scalar c rest' => decodeFrom (index + c.utf8Size) (c :: done) rest'
    | .broken size _ => .error ⟨index, some size⟩
    | .cut => .error ⟨index, none⟩
termination_by bytes => bytes.length
decreasing_by exact length_lt_of_front_scalar _h

/-- The scalar values of well-formed text, or where it stops being text. -/
def decodeChars (bytes : Bytes) : Except Malformed (List Char) := decodeFrom 0 [] bytes

/-- The string that a byte string spells, or where it stops being text. -/
def decode (bytes : Bytes) : Except Malformed String := (decodeChars bytes).map String.ofList

/-- The character that stands for what cannot be decoded. -/
def replacement : Char := Char.ofNat 0xFFFD

/-- Lossy decoding; `done` holds the scalar values so far, last first. -/
def decodeLossyFrom (done : List Char) : Bytes → List Char
  | [] => done.reverse
  | b :: rest =>
    match _h : front b rest with
    | .scalar c rest' => decodeLossyFrom (c :: done) rest'
    | .broken _ rest' => decodeLossyFrom (replacement :: done) rest'
    | .cut => (replacement :: done).reverse
termination_by bytes => bytes.length
decreasing_by
  · exact length_lt_of_front_scalar _h
  · exact length_lt_of_front_broken _h

/-- The text of a byte string with U+FFFD for each piece that is no scalar value. -/
def decodeLossy (bytes : Bytes) : String := String.ofList (decodeLossyFrom [] bytes)

end Switchboard.Utf8
