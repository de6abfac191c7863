import Switchboard.Json.Record
import Switchboard.Proofs.Json.Parts

/-!
# What a reader of records has taken

The cases of the readers of strings, lists, tables and records, in the manner of those for values. A
record is found as an object, of which some fields are passed over, or as a list, which may end
before the fields that are not required.
-/

namespace Switchboard.Json

variable {α σ : Type} {bytes rest : Bytes} {bound depth : Nat} {first : Bool}

/-- What a reader has read whose result was made into another. -/
theorem exists_of_map_eq_ok {β : Type} {read : Except Stop (α × Bytes)} {f : α → β} {y : β}
    (h : (do
      let (x, rest) ← read
      return (f x, rest)) = Except.ok (y, rest)) : ∃ x, read = .ok (x, rest) ∧ f x = y := by
  obtain ⟨⟨x, after⟩, hread, h⟩ := Except.exists_of_bind_eq_ok h
  obtain ⟨rfl, rfl⟩ := Prod.mk.inj (Except.ok.inj h)
  exact ⟨x, hread, rfl⟩

theorem expectString_eq_ok {s : String} (h : expectString bytes = .ok (s, rest)) :
    ∃ tail, skipSpace bytes = 0x22 :: tail ∧ readString tail = .ok (s, rest) := by
  unfold expectString at h
  split at h
  · next tail hspace => exact ⟨tail, hspace, h⟩
  · cases h

theorem enter_eq_ok {inner : Nat} (h : enter depth bytes = .ok inner) : depth = inner + 1 := by
  cases depth with
  | zero => cases h
  | succ depth => rw [Except.ok.inj h]

theorem expectList_eq_ok {item : (depth : Nat) → Bytes → Except Stop (α × Bytes)} {xs : List α}
    (h : expectList item bound depth bytes = .ok (xs, rest)) :
    ∃ inner tail, depth = inner + 1 ∧ skipSpace bytes = 0x5B :: tail ∧
      Items (item inner) true tail xs rest := by
  unfold expectList at h
  split at h
  · next tail hspace =>
    obtain ⟨inner, henter, h⟩ := Except.exists_of_bind_eq_ok h
    obtain ⟨_, rfl, hitems⟩ := items_of_readItems h
    exact ⟨inner, tail, enter_eq_ok henter, hspace, hitems⟩
  · cases h

theorem expectTable_eq_ok {fields : Table Json}
    (h : expectTable bound depth bytes = .ok (fields, rest)) :
    ∃ inner tail pairs, depth = inner + 1 ∧ skipSpace bytes = 0x7B :: tail ∧
      fields = Table.ofList pairs ∧ Fields (readValue bound inner) true tail pairs rest := by
  unfold expectTable at h
  split at h
  · next tail hspace =>
    obtain ⟨inner, henter, h⟩ := Except.exists_of_bind_eq_ok h
    obtain ⟨pairs, rfl, hfields⟩ := fields_of_readFields h
    exact ⟨inner, tail, pairs, enter_eq_ok henter, hspace, rfl, hfields⟩
  · cases h

/-! ## Records -/

/-- The fields of a record that a reader finds in an object, up to and with its brace. -/
inductive RecordFields (fields : List (Field σ)) (depth bound : Nat) :
    Bool → σ → Bytes → σ → Bytes → Prop where
  | close {first : Bool} {draft : σ} {bytes rest : Bytes} (h : skipSpace bytes = 0x7D :: rest)
      (hnone : fields.find? (fun f => f.required && !f.isSet draft) = none) :
      RecordFields fields depth bound first draft bytes draft rest
  | other {first : Bool} {draft final : σ} {bytes front after colon more rest : Bytes}
      {key : String} (hnext : nextKey first bytes = .ok (.part, front))
      (hkey : readString front = .ok (key, after)) (hcolon : readColon after = .ok colon)
      (hfind : fields.find? (fun f => f.name == key) = none)
      (hskip : skipValue bound colon = .ok more)
      (hmore : RecordFields fields depth bound false draft more final rest) :
      RecordFields fields depth bound first draft bytes final rest
  | field {first : Bool} {draft next final : σ} {bytes front after colon more rest : Bytes}
      {key : String} {f : Field σ} (hnext : nextKey first bytes = .ok (.part, front))
      (hkey : readString front = .ok (key, after)) (hcolon : readColon after = .ok colon)
      (hfind : fields.find? (fun f => f.name == key) = some f) (hset : f.isSet draft = false)
      (hread : f.read depth draft colon = .ok (next, more))
      (hmore : RecordFields fields depth bound false next more final rest) :
      RecordFields fields depth bound first draft bytes final rest

/-- The fields of a record that a reader finds in a list, up to and with its bracket. -/
inductive RecordItems (depth : Nat) :
    List (Field σ) → Bool → σ → Bytes → σ → Bytes → Prop where
  | close {first : Bool} {draft : σ} {bytes rest : Bytes} (h : skipSpace bytes = 0x5D :: rest) :
      RecordItems depth [] first draft bytes draft rest
  | absent {f : Field σ} {fields : List (Field σ)} {first : Bool} {draft final : σ}
      {bytes tail rest : Bytes} (h : skipSpace bytes = 0x5D :: tail) (hrequired : f.required = false)
      (hmore : RecordItems depth fields first draft (0x5D :: tail) final rest) :
      RecordItems depth (f :: fields) first draft bytes final rest
  | item {f : Field σ} {fields : List (Field σ)} {first : Bool} {draft next final : σ}
      {bytes front more rest : Bytes} (hnext : nextItem first bytes = .ok (.part, front))
      (hread : f.read depth draft front = .ok (next, more))
      (hmore : RecordItems depth fields false next more final rest) :
      RecordItems depth (f :: fields) first draft bytes final rest

variable {fields : List (Field σ)} {draft final : σ}

theorem recordFields_eq_ok {left : Nat}
    (h : recordFields fields depth bound left first draft bytes = .ok (final, rest)) :
    RecordFields fields depth bound first draft bytes final rest := by
  induction left generalizing first draft bytes with
  | zero => cases h
  | succ left ih =>
    rw [recordFields] at h
    obtain ⟨⟨next, front⟩, hnext, h⟩ := Except.exists_of_bind_eq_ok h
    cases next with
    | close =>
      obtain ⟨tail, rfl, hspace⟩ := nextKey_eq_close hnext
      dsimp only at h
      split at h
      · cases h
      · next hnone =>
        obtain ⟨rfl, rfl⟩ := Prod.mk.inj (Except.ok.inj h)
        exact .close hspace hnone
    | part =>
      obtain ⟨⟨key, after⟩, hkey, h⟩ := Except.exists_of_bind_eq_ok h
      dsimp only at h
      split at h
      · next hfind =>
        obtain ⟨colon, hcolon, h⟩ := Except.exists_of_bind_eq_ok h
        obtain ⟨more, hskip, h⟩ := Except.exists_of_bind_eq_ok h
        exact .other hnext hkey hcolon hfind hskip (ih h)
      · next f hfind =>
        by_cases hset : f.isSet draft = true
        · simp [hset, throw, throwThe, MonadExceptOf.throw, bind, Except.bind] at h
        · simp only [hset] at h
          obtain ⟨colon, hcolon, h⟩ := Except.exists_of_bind_eq_ok h
          obtain ⟨⟨next, more⟩, hread, h⟩ := Except.exists_of_bind_eq_ok h
          exact .field hnext hkey hcolon hfind (by simpa using hset) hread (ih h)

theorem endOfList_eq_ok (h : endOfList bytes = .ok rest) : skipSpace bytes = 0x5D :: rest := by
  unfold endOfList at h
  split at h
  · cases h
  · next b tail hspace =>
    split at h
    · next hb =>
      obtain rfl := Except.ok.inj h
      rw [hspace, hb]
    · split at h
      · split at h <;> cases h
      · cases h

theorem recordItems_eq_ok {expected : String} {index : Nat}
    (h : recordItems expected depth index fields first draft bytes = .ok (final, rest)) :
    RecordItems depth fields first draft bytes final rest := by
  induction fields generalizing index first draft bytes with
  | nil =>
    rw [recordItems] at h
    obtain ⟨after, hend, h⟩ := Except.exists_of_bind_eq_ok h
    obtain ⟨rfl, rfl⟩ := Prod.mk.inj (Except.ok.inj h)
    exact .close (endOfList_eq_ok hend)
  | cons f fields ih =>
    rw [recordItems] at h
    obtain ⟨⟨next, front⟩, hnext, h⟩ := Except.exists_of_bind_eq_ok h
    cases next with
    | close =>
      obtain ⟨tail, rfl, hspace⟩ := nextItem_eq_close hnext
      by_cases hrequired : f.required = true
      · simp [hrequired, throw, throwThe, MonadExceptOf.throw] at h
      · simp only [hrequired] at h
        exact .absent hspace (by simpa using hrequired) (ih h)
    | part =>
      obtain ⟨⟨next, more⟩, hread, h⟩ := Except.exists_of_bind_eq_ok h
      exact .item hnext hread (ih h)

/-- The cases of a record that has been read. -/
theorem readRecord_eq_ok {name : String}
    (h : readRecord name fields draft bound depth bytes = .ok (final, rest)) :
    ∃ inner tail, depth = inner + 1 ∧
      (skipSpace bytes = 0x7B :: tail ∧ RecordFields fields inner bound true draft tail final rest ∨
        skipSpace bytes = 0x5B :: tail ∧ RecordItems inner fields true draft tail final rest) := by
  simp only [readRecord] at h
  split at h
  · next tail hspace =>
    obtain ⟨inner, henter, h⟩ := Except.exists_of_bind_eq_ok h
    exact ⟨inner, tail, enter_eq_ok henter, .inl ⟨hspace, recordFields_eq_ok h⟩⟩
  · next tail hspace =>
    obtain ⟨inner, henter, h⟩ := Except.exists_of_bind_eq_ok h
    exact ⟨inner, tail, enter_eq_ok henter, .inr ⟨hspace, recordItems_eq_ok h⟩⟩
  · cases h

/-! ## What holds of records -/

/-- What the reading of every field keeps holds of the record. -/
theorem of_recordFields {P : σ → Prop} (h : RecordFields fields depth bound first draft bytes final rest)
    (hread : ∀ f ∈ fields, ∀ draft bytes next rest, f.read depth draft bytes = .ok (next, rest) →
      P draft → P next) (hdraft : P draft) : P final := by
  induction h with
  | close => exact hdraft
  | other _ _ _ _ _ _ ih => exact ih hdraft
  | field _ _ _ hfind _ hfield _ ih =>
    exact ih (hread _ (List.mem_of_find?_eq_some hfind) _ _ _ _ hfield hdraft)

theorem of_recordItems {P : σ → Prop} (h : RecordItems depth fields first draft bytes final rest)
    (hread : ∀ f ∈ fields, ∀ draft bytes next rest, f.read depth draft bytes = .ok (next, rest) →
      P draft → P next) (hdraft : P draft) : P final := by
  induction h with
  | close => exact hdraft
  | absent _ _ _ ih => exact ih (fun f hf => hread f (List.mem_cons_of_mem _ hf)) hdraft
  | item _ hfield _ ih =>
    exact ih (fun f hf => hread f (List.mem_cons_of_mem _ hf))
      (hread _ List.mem_cons_self _ _ _ _ hfield hdraft)

theorem of_readRecord {P : σ → Prop} {name : String}
    (h : readRecord name fields draft bound (depth + 1) bytes = .ok (final, rest))
    (hread : ∀ f ∈ fields, ∀ draft bytes next rest, f.read depth draft bytes = .ok (next, rest) →
      P draft → P next) (hdraft : P draft) : P final := by
  obtain ⟨inner, tail, hdepth, hcases⟩ := readRecord_eq_ok h
  obtain rfl := Nat.succ.inj hdepth
  rcases hcases with ⟨-, hfields⟩ | ⟨-, hitems⟩
  · exact of_recordFields hfields hread hdraft
  · exact of_recordItems hitems hread hdraft

end Switchboard.Json
