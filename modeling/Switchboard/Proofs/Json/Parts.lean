import Switchboard.Json.Reader
import Switchboard.Proofs.Except

/-!
# What a reader has taken

What a reader that succeeds has found in front of it, for each reader of a part of a document. Laws
of documents are proved from these cases and do not look into the readers again.
-/

namespace Switchboard.Json

variable {α : Type} {bytes rest : Bytes} {bound depth : Nat} {first : Bool}

theorem eq_append_of_readWord {word : Bytes} (h : readWord word bytes = .ok rest) :
    bytes = word ++ rest := by
  induction word generalizing bytes with
  | nil => exact Except.ok.inj h
  | cons w word ih =>
    cases bytes with
    | nil => cases h
    | cons b tail =>
      rw [readWord] at h
      split at h
      · next heq => rw [heq, ih h, List.cons_append]
      · cases h

/-! ## Between the parts -/

theorem nextItem_eq_close (h : nextItem first bytes = .ok (.close, rest)) :
    ∃ tail, rest = 0x5D :: tail ∧ skipSpace bytes = 0x5D :: tail := by
  unfold nextItem at h
  split at h
  · cases h
  · next b tail hspace =>
    split at h
    · next hb =>
      obtain rfl := (Prod.mk.inj (Except.ok.inj h)).2
      subst hb
      exact ⟨tail, rfl, hspace⟩
    · split at h
      · cases h
      · split at h
        · split at h
          · cases h
          · split at h
            · cases h
            · cases h
        · cases h

theorem nextItem_eq_part (h : nextItem first bytes = .ok (.part, rest)) :
    (∃ b tail, rest = b :: tail ∧ b ≠ 0x5D) ∧
      (first = true ∧ skipSpace bytes = rest ∨
        first = false ∧ ∃ tail, skipSpace bytes = 0x2C :: tail ∧ skipSpace tail = rest) := by
  unfold nextItem at h
  split at h
  · cases h
  · next b tail hspace =>
    split at h
    · cases h
    · next hb =>
      split at h
      · next hfirst =>
        obtain rfl := (Prod.mk.inj (Except.ok.inj h)).2
        exact ⟨⟨b, tail, rfl, hb⟩, .inl ⟨hfirst, hspace⟩⟩
      · next hfirst =>
        split at h
        · next hcomma =>
          split at h
          · cases h
          · next c more hmore =>
            split at h
            · cases h
            · next hc =>
              obtain rfl := (Prod.mk.inj (Except.ok.inj h)).2
              subst hcomma
              exact ⟨⟨c, more, rfl, hc⟩, .inr ⟨by simpa using hfirst, tail, hspace, hmore⟩⟩
        · cases h

/-- Takes the quote of a key, where a key must stand. -/
def takeQuote : Bytes → Except Stop (Next × Bytes)
  | [] => .error (.at .endInValue [])
  | b :: rest =>
    if b = 0x22 then .ok (.part, rest)
    else if b = 0x7D then .error (.at .trailingComma (b :: rest))
    else .error (.at .keyNotString (b :: rest))

theorem nextKey_eq (first : Bool) (bytes : Bytes) :
    nextKey first bytes =
      match skipSpace bytes with
      | [] => .error (.at .endInObject [])
      | b :: rest =>
        if b = 0x7D then .ok (.close, b :: rest)
        else if first then takeQuote (b :: rest)
        else if b = 0x2C then takeQuote (skipSpace rest)
        else .error (.at .expectedCommaOrBrace (b :: rest)) := rfl

theorem takeQuote_eq_ok {next : Next} (h : takeQuote bytes = .ok (next, rest)) :
    next = .part ∧ bytes = 0x22 :: rest := by
  cases bytes with
  | nil => cases h
  | cons b tail =>
    rw [takeQuote] at h
    split at h
    · next hb =>
      obtain ⟨rfl, rfl⟩ := Prod.mk.inj (Except.ok.inj h)
      exact ⟨rfl, by rw [hb]⟩
    · split at h <;> cases h

theorem nextKey_eq_close (h : nextKey first bytes = .ok (.close, rest)) :
    ∃ tail, rest = 0x7D :: tail ∧ skipSpace bytes = 0x7D :: tail := by
  rw [nextKey_eq] at h
  split at h
  · cases h
  · next b tail hspace =>
    split at h
    · next hb =>
      obtain rfl := (Prod.mk.inj (Except.ok.inj h)).2
      subst hb
      exact ⟨tail, rfl, hspace⟩
    · split at h
      · cases (takeQuote_eq_ok h).1
      · split at h
        · cases (takeQuote_eq_ok h).1
        · cases h

theorem nextKey_eq_part (h : nextKey first bytes = .ok (.part, rest)) :
    first = true ∧ skipSpace bytes = 0x22 :: rest ∨
      first = false ∧ ∃ tail, skipSpace bytes = 0x2C :: tail ∧ skipSpace tail = 0x22 :: rest := by
  rw [nextKey_eq] at h
  split at h
  · cases h
  · next b tail hspace =>
    split at h
    · cases h
    · split at h
      · next hfirst => exact .inl ⟨hfirst, hspace.trans (takeQuote_eq_ok h).2⟩
      · next hfirst =>
        split at h
        · next hcomma =>
          subst hcomma
          exact .inr ⟨by simpa using hfirst, tail, hspace, (takeQuote_eq_ok h).2⟩
        · cases h

theorem readColon_eq_ok (h : readColon bytes = .ok rest) : skipSpace bytes = 0x3A :: rest := by
  unfold readColon at h
  split at h
  · cases h
  · next b tail hspace =>
    split at h
    · next hb =>
      obtain rfl := Except.ok.inj h
      rw [hspace, hb]
    · cases h

/-! ## Lists and objects -/

/-- The items that a reader finds in a list, up to and with its bracket. -/
inductive Items (item : Bytes → Except Stop (α × Bytes)) : Bool → Bytes → List α → Bytes → Prop where
  | close {first : Bool} {bytes rest : Bytes} (h : skipSpace bytes = 0x5D :: rest) :
      Items item first bytes [] rest
  | part {first : Bool} {bytes front after rest : Bytes} {x : α} {xs : List α}
      (hnext : nextItem first bytes = .ok (.part, front)) (hitem : item front = .ok (x, after))
      (hmore : Items item false after xs rest) : Items item first bytes (x :: xs) rest

theorem items_of_readItems {item : Bytes → Except Stop (α × Bytes)} {left : Nat} {done all : List α}
    (h : readItems item left first done bytes = .ok (all, rest)) :
    ∃ xs, all = done.reverse ++ xs ∧ Items item first bytes xs rest := by
  induction left generalizing first done bytes with
  | zero => cases h
  | succ left ih =>
    rw [readItems] at h
    obtain ⟨⟨next, front⟩, hnext, h⟩ := Except.exists_of_bind_eq_ok h
    cases next with
    | close =>
      obtain ⟨tail, rfl, hspace⟩ := nextItem_eq_close hnext
      obtain ⟨rfl, rfl⟩ := Prod.mk.inj (Except.ok.inj h)
      exact ⟨[], (List.append_nil _).symm, .close hspace⟩
    | part =>
      obtain ⟨⟨x, after⟩, hitem, h⟩ := Except.exists_of_bind_eq_ok h
      obtain ⟨xs, rfl, hmore⟩ := ih h
      exact ⟨x :: xs, by simp, .part hnext hitem hmore⟩

/-- The fields that a reader finds in an object, up to and with its brace. -/
inductive Fields (value : Bytes → Except Stop (α × Bytes)) :
    Bool → Bytes → List (String × α) → Bytes → Prop where
  | close {first : Bool} {bytes rest : Bytes} (h : skipSpace bytes = 0x7D :: rest) :
      Fields value first bytes [] rest
  | part {first : Bool} {bytes front after colon more rest : Bytes} {key : String} {x : α}
      {fields : List (String × α)} (hnext : nextKey first bytes = .ok (.part, front))
      (hkey : readString front = .ok (key, after)) (hcolon : readColon after = .ok colon)
      (hvalue : value colon = .ok (x, more)) (hmore : Fields value false more fields rest) :
      Fields value first bytes ((key, x) :: fields) rest

theorem fields_of_readFields {value : Bytes → Except Stop (α × Bytes)} {left : Nat}
    {done all : Table α} (h : readFields value left first done bytes = .ok (all, rest)) :
    ∃ fields, all = fields.foldl (fun t pair => Table.insert pair.1 pair.2 t) done ∧
      Fields value first bytes fields rest := by
  induction left generalizing first done bytes with
  | zero => cases h
  | succ left ih =>
    rw [readFields] at h
    obtain ⟨⟨next, front⟩, hnext, h⟩ := Except.exists_of_bind_eq_ok h
    cases next with
    | close =>
      obtain ⟨tail, rfl, hspace⟩ := nextKey_eq_close hnext
      obtain ⟨rfl, rfl⟩ := Prod.mk.inj (Except.ok.inj h)
      exact ⟨[], rfl, .close hspace⟩
    | part =>
      obtain ⟨⟨key, after⟩, hkey, h⟩ := Except.exists_of_bind_eq_ok h
      obtain ⟨colon, hcolon, h⟩ := Except.exists_of_bind_eq_ok h
      obtain ⟨⟨x, more⟩, hvalue, h⟩ := Except.exists_of_bind_eq_ok h
      obtain ⟨fields, rfl, hmore⟩ := ih h
      exact ⟨(key, x) :: fields, rfl, .part hnext hkey hcolon hvalue hmore⟩

/-! ## Values -/

/-- A value without parts at the front of a document, and what follows it. -/
inductive Scalar : Bytes → Json → Bytes → Prop where
  | null (rest : Bytes) : Scalar (0x6E :: 0x75 :: 0x6C :: 0x6C :: rest) .null rest
  | true (rest : Bytes) : Scalar (0x74 :: 0x72 :: 0x75 :: 0x65 :: rest) (.bool true) rest
  | false (rest : Bytes) : Scalar (0x66 :: 0x61 :: 0x6C :: 0x73 :: 0x65 :: rest) (.bool false) rest
  | negative {tail rest : Bytes} {n : JsonNumber} (h : readNumber .true tail = .ok (n, rest)) :
      Scalar (0x2D :: tail) (.number n) rest
  | digits {b : UInt8} {tail rest : Bytes} {n : JsonNumber} (hb : isDigit b = .true)
      (h : readNumber .false (b :: tail) = .ok (n, rest)) : Scalar (b :: tail) (.number n) rest
  | string {tail rest : Bytes} {s : String} (h : readString tail = .ok (s, rest)) :
      Scalar (0x22 :: tail) (.string s) rest

theorem readScalar_eq_ok {answer : Option (Json × Bytes)} (h : readScalar bytes = .ok answer) :
    (∃ v rest, answer = some (v, rest) ∧ Scalar bytes v rest) ∨
      answer = none ∧ ∃ tail, bytes = 0x5B :: tail ∨ bytes = 0x7B :: tail := by
  cases bytes with
  | nil => cases h
  | cons b tail =>
    rw [readScalar] at h
    split at h
    · next hb =>
      subst hb
      obtain ⟨rest, hword, h⟩ := Except.exists_of_bind_eq_ok h
      rw [eq_append_of_readWord hword]
      exact .inl ⟨_, _, (Except.ok.inj h).symm, .null rest⟩
    split at h
    · next hb =>
      subst hb
      obtain ⟨rest, hword, h⟩ := Except.exists_of_bind_eq_ok h
      rw [eq_append_of_readWord hword]
      exact .inl ⟨_, _, (Except.ok.inj h).symm, .true rest⟩
    split at h
    · next hb =>
      subst hb
      obtain ⟨rest, hword, h⟩ := Except.exists_of_bind_eq_ok h
      rw [eq_append_of_readWord hword]
      exact .inl ⟨_, _, (Except.ok.inj h).symm, .false rest⟩
    split at h
    · next hb =>
      subst hb
      obtain ⟨⟨n, rest⟩, hnumber, h⟩ := Except.exists_of_bind_eq_ok h
      exact .inl ⟨_, _, (Except.ok.inj h).symm, .negative hnumber⟩
    split at h
    · next hb =>
      obtain ⟨⟨n, rest⟩, hnumber, h⟩ := Except.exists_of_bind_eq_ok h
      exact .inl ⟨_, _, (Except.ok.inj h).symm, .digits hb hnumber⟩
    split at h
    · next hb =>
      subst hb
      obtain ⟨⟨s, rest⟩, hstring, h⟩ := Except.exists_of_bind_eq_ok h
      exact .inl ⟨_, _, (Except.ok.inj h).symm, .string hstring⟩
    split at h
    · next hb =>
      refine .inr ⟨(Except.ok.inj h).symm, tail, ?_⟩
      rcases hb with rfl | rfl
      · exact .inl rfl
      · exact .inr rfl
    · cases h

/-- The cases of a value that has been read. -/
theorem readValue_eq_ok {v : Json} (h : readValue bound depth bytes = .ok (v, rest)) :
    Scalar (skipSpace bytes) v rest ∨
      ∃ inner tail, depth = inner + 1 ∧
        ((∃ items, skipSpace bytes = 0x5B :: tail ∧ v = .array items ∧
            Items (readValue bound inner) true tail items rest) ∨
          ∃ fields, skipSpace bytes = 0x7B :: tail ∧ v = .object (Table.ofList fields) ∧
            Fields (readValue bound inner) true tail fields rest) := by
  cases depth with
  | zero =>
    rw [readValue] at h
    obtain ⟨answer, hscalar, h⟩ := Except.exists_of_bind_eq_ok h
    rcases readScalar_eq_ok hscalar with ⟨v', rest', rfl, hv⟩ | ⟨rfl, -⟩
    · obtain ⟨rfl, rfl⟩ := Prod.mk.inj (Except.ok.inj h)
      exact .inl hv
    · cases h
  | succ inner =>
    rw [readValue] at h
    obtain ⟨answer, hscalar, h⟩ := Except.exists_of_bind_eq_ok h
    rcases readScalar_eq_ok hscalar with ⟨v', rest', rfl, hv⟩ | ⟨rfl, tail, hspace⟩
    · obtain ⟨rfl, rfl⟩ := Prod.mk.inj (Except.ok.inj h)
      exact .inl hv
    · refine .inr ⟨inner, tail, rfl, ?_⟩
      rcases hspace with hspace | hspace
      · rw [hspace] at h
        obtain ⟨⟨items, after⟩, hitems, h⟩ := Except.exists_of_bind_eq_ok h
        obtain ⟨rfl, rfl⟩ := Prod.mk.inj (Except.ok.inj h)
        obtain ⟨_, rfl, hxs⟩ := items_of_readItems hitems
        exact .inl ⟨_, hspace, rfl, hxs⟩
      · rw [hspace] at h
        obtain ⟨⟨fields, after⟩, hfields, h⟩ := Except.exists_of_bind_eq_ok h
        obtain ⟨rfl, rfl⟩ := Prod.mk.inj (Except.ok.inj h)
        obtain ⟨pairs, rfl, hpairs⟩ := fields_of_readFields hfields
        exact .inr ⟨pairs, hspace, rfl, hpairs⟩

/-! ## Documents -/

theorem exists_of_readDocument {reader : Nat → Bytes → Except Stop (α × Bytes)} {document : Bytes}
    {x : α} (h : readDocument reader document = .ok x) :
    ∃ rest, reader (document.length + 1) document = .ok (x, rest) ∧ skipSpace rest = [] := by
  unfold readDocument at h
  split at h
  · cases h
  · next x' rest hreader =>
    split at h
    · next hspace =>
      obtain rfl := Except.ok.inj h
      exact ⟨rest, hreader, hspace⟩
    · cases h

end Switchboard.Json
