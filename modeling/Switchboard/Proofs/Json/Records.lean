import Switchboard.Json.Record
import Switchboard.Proofs.Json.Values

/-!
# Reading back records

The readers of strings, lists, tables and records take back what has been written for them. The
fields of a record may have been written in any order; a field that is not required may have been
left out.
-/

namespace Switchboard.Json

open Utf8 (encodeChars)

variable {α σ : Type} {bytes rest : Bytes} {bound depth : Nat} {j : Json}

theorem takesBack_expectString (bound : Nat) (s : String) : TakesBack bound expectString (.string s) s := by
  refine ⟨opens_string s, fun rest _ _ => ?_⟩
  have hspace (tail : Bytes) : skipSpace (0x22 :: tail) = 0x22 :: tail := rfl
  rw [write, encodeChars_writeString]
  simp [expectString, hspace, readString_written]

theorem takesBack_expectList {item : (depth : Nat) → Bytes → Except Stop (α × Bytes)}
    {js : List Json} {xs : List α} (h : List.Forall₂ (TakesBack bound (item depth)) js xs) :
    TakesBack bound (expectList item bound (depth + 1)) (.array js) xs := by
  refine ⟨opens_array js, fun rest _ hbound => ?_⟩
  rw [array_write, List.length_cons] at hbound
  have hread := readItems_itemsText h bound true [] rest (by omega) (by omega)
  have hspace (tail : Bytes) : skipSpace (0x5B :: tail) = 0x5B :: tail := rfl
  rw [array_write]
  simp [expectList, hspace, enter, hread, bind, Except.bind]

theorem takesBack_expectTable (bound : Nat) {fields : Table Json} (hsorted : fields.Sorted)
    (h : ∀ field ∈ fields, TakesBack bound (readValue bound depth) field.2 field.2) :
    TakesBack bound (expectTable bound (depth + 1)) (.object fields) fields := by
  refine ⟨opens_object fields, fun rest _ hbound => ?_⟩
  rw [object_write, List.length_cons] at hbound
  have hread := readFields_fieldsText
    (List.forall₂_same.2 fun field hfield => ⟨rfl, h field hfield⟩) bound true [] rest
    (by omega) (by omega)
  change _ = Except.ok (Table.ofList fields, rest) at hread
  rw [Table.ofList_of_sorted hsorted] at hread
  have hspace (tail : Bytes) : skipSpace (0x7B :: tail) = 0x7B :: tail := rfl
  rw [object_write]
  simp [expectTable, hspace, enter, hread, bind, Except.bind]

/-- What a reader makes of the value that it takes back. -/
theorem TakesBack.map {β : Type} {reader : Bytes → Except Stop (α × Bytes)} {x : α}
    (h : TakesBack bound reader j x) (f : α → β) :
    TakesBack bound (fun bytes => do
      let (x, rest) ← reader bytes
      return (f x, rest)) j (f x) := by
  refine ⟨h.opens, fun rest hrest hbound => ?_⟩
  simp [h.reads rest hrest hbound, bind, Except.bind, pure, Except.pure]

/-- Fields that have been written fill a draft of a record, each its own place, until nothing that is
required is missing. -/
inductive Fills (fields : List (Field σ)) (bound depth : Nat) :
    σ → List (String × Json) → σ → Prop where
  | done {draft : σ} (h : fields.find? (fun f => f.required && !f.isSet draft) = none) :
      Fills fields bound depth draft [] draft
  | field {draft next final : σ} {f : Field σ} {key : String} {j : Json} {js : List (String × Json)}
      (hfind : fields.find? (fun f => f.name == key) = some f) (hset : f.isSet draft = false)
      (hread : TakesBack bound (f.read depth draft) j next)
      (hmore : Fills fields bound depth next js final) :
      Fills fields bound depth draft ((key, j) :: js) final

variable {fields : List (Field σ)} {draft final : σ} {js : List (String × Json)}

/-- The fields that are left of a record are read back. -/
theorem recordFields_fieldsText (h : Fills fields bound depth draft js final) (left : Nat)
    (first : Bool) (rest : Bytes)
    (hleft : (encodeChars (fieldsText first js) ++ 0x7D :: rest).length < left)
    (hbound : (encodeChars (fieldsText first js) ++ 0x7D :: rest).length < bound) :
    recordFields fields depth bound left first draft
      (encodeChars (fieldsText first js) ++ 0x7D :: rest) = .ok (final, rest) := by
  induction h generalizing left first with
  | done hnone =>
    obtain ⟨left, rfl⟩ : ∃ l, left = l + 1 := ⟨left - 1, by omega⟩
    rw [fieldsText_nil]
    simp [recordFields, nextKey_close, hnone, bind, Except.bind, pure, Except.pure]
  | @field draft next final f key j js hfind hset hread hmore ih =>
    rw [fieldsText_cons] at hleft hbound ⊢
    simp only [List.length_append, List.length_cons] at hleft hbound ih
    have hvalue := hread.reads _ (endsNumber_fieldsText js rest) (by
      simp only [List.length_append, List.length_cons]
      omega)
    obtain ⟨left, rfl⟩ : ∃ l, left = l + 1 := ⟨left - 1, by omega⟩
    have hrest := ih left false (by omega) (by omega)
    rw [recordFields]
    simp [nextKey_part, readString_written, readColon_colon, hfind, hset, hvalue, hrest, bind,
      Except.bind]

/-- A record is taken back from an object whose fields fill it. -/
theorem takesBack_readRecord {name : String} {empty : σ}
    (h : Fills fields bound depth empty js final) :
    TakesBack bound (readRecord name fields empty bound (depth + 1)) (.object js) final := by
  refine ⟨opens_object js, fun rest _ hbound => ?_⟩
  rw [object_write, List.length_cons] at hbound
  have hread := recordFields_fieldsText h bound true rest (by omega) (by omega)
  have hspace (tail : Bytes) : skipSpace (0x7B :: tail) = 0x7B :: tail := rfl
  rw [object_write]
  simp [readRecord, hspace, enter, hread, bind, Except.bind]

end Switchboard.Json
