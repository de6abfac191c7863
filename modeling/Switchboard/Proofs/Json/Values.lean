import Mathlib.Data.List.Forall2
import Switchboard.Json.Reader
import Switchboard.Proofs.Json.Numbers
import Switchboard.Proofs.Json.Strings

/-!
# Reading back what has been written

Every part of a value is read back from its text, whatever follows it, as long as that does not go on
with a number. Lists and objects are read part by part; `TakesBack` says of any reader that it takes
back what is written for a value, so that the same lemmas serve for readers of values and for readers
of records.
-/

namespace Switchboard.Json

open Utf8 (encodeChar encodeChars)

variable {α : Type} {bytes rest : Bytes} {bound : Nat}

/-! ## The parts of lists and objects -/

/-- The bytes begin with neither a blank nor the end of a list. -/
def Opens (bytes : Bytes) : Prop := ∃ b tail, bytes = b :: tail ∧ isSpace b = false ∧ b ≠ 0x5D

theorem Opens.skipSpace (h : Opens bytes) : skipSpace bytes = bytes := by
  obtain ⟨b, tail, rfl, hb, -⟩ := h
  rw [Json.skipSpace, List.dropWhile_cons, hb]
  rfl

/-- What stands before a part: a comma, unless it is the first. -/
def separator (first : Bool) : Bytes := if first then [] else [0x2C]

theorem nextItem_close (first : Bool) (rest : Bytes) :
    nextItem first (0x5D :: rest) = .ok (.close, 0x5D :: rest) := rfl

theorem nextItem_part (first : Bool) (h : Opens bytes) :
    nextItem first (separator first ++ bytes) = .ok (.part, bytes) := by
  cases first with
  | true =>
    change nextItem true bytes = _
    rw [nextItem, h.skipSpace]
    obtain ⟨b, tail, rfl, -, hb⟩ := h
    simp [hb]
  | false =>
    have hcomma : Json.skipSpace (0x2C :: bytes) = 0x2C :: bytes := rfl
    change nextItem false (0x2C :: bytes) = _
    rw [nextItem, hcomma]
    simp only [h.skipSpace]
    obtain ⟨b, tail, rfl, -, hb⟩ := h
    simp [hb]

theorem nextKey_close (first : Bool) (rest : Bytes) :
    nextKey first (0x7D :: rest) = .ok (.close, 0x7D :: rest) := rfl

theorem nextKey_part (first : Bool) (rest : Bytes) :
    nextKey first (separator first ++ 0x22 :: rest) = .ok (.part, rest) := by
  cases first <;> rfl

theorem readColon_colon (rest : Bytes) : readColon (0x3A :: rest) = .ok rest := rfl

/-- The text of the items that are left of a list. -/
def itemsText (first : Bool) (items : List Json) : List Char :=
  if first then writeItems items else writeMoreItems items

/-- The text of the fields that are left of an object. -/
def fieldsText (first : Bool) (fields : List (String × Json)) : List Char :=
  if first then writeFields fields else writeMoreFields fields

theorem itemsText_nil (first : Bool) (rest : Bytes) :
    encodeChars (itemsText first []) ++ rest = rest := by
  cases first <;> rfl

theorem itemsText_cons (first : Bool) (item : Json) (items : List Json) (rest : Bytes) :
    encodeChars (itemsText first (item :: items)) ++ rest =
      separator first ++
        (encodeChars item.write ++ (encodeChars (itemsText false items) ++ rest)) := by
  have hwrite : encodeChars (item.write ++ writeMoreItems items) ++ rest =
      encodeChars item.write ++ (encodeChars (writeMoreItems items) ++ rest) := by
    rw [Utf8.encodeChars_append, List.append_assoc]
  cases first with
  | true => exact hwrite
  | false => exact congrArg (0x2C :: ·) hwrite

theorem fieldsText_nil (first : Bool) (rest : Bytes) :
    encodeChars (fieldsText first []) ++ rest = rest := by
  cases first <;> rfl

/-- A field is its key as a string, a colon and its value. -/
theorem fieldsText_cons (first : Bool) (key : String) (value : Json)
    (fields : List (String × Json)) (rest : Bytes) :
    encodeChars (fieldsText first ((key, value) :: fields)) ++ rest =
      separator first ++ 0x22 :: (encodeChars (key.toList.flatMap escapeChar) ++
        0x22 :: 0x3A :: (encodeChars value.write ++
          (encodeChars (fieldsText false fields) ++ rest))) := by
  have hwrite : encodeChars (writeString key ++ ':' :: (value.write ++ writeMoreFields fields)) ++
      rest = 0x22 :: (encodeChars (key.toList.flatMap escapeChar) ++
        0x22 :: 0x3A :: (encodeChars value.write ++
          (encodeChars (writeMoreFields fields) ++ rest))) := by
    rw [Utf8.encodeChars_append, List.append_assoc, encodeChars_writeString, Utf8.encodeChars_cons,
      Utf8.encodeChars_append, List.append_assoc, List.append_assoc]
    rfl
  cases first with
  | true => exact hwrite
  | false => exact congrArg (0x2C :: ·) hwrite

theorem array_write (items : List Json) (rest : Bytes) :
    encodeChars (Json.array items).write ++ rest =
      0x5B :: (encodeChars (itemsText true items) ++ 0x5D :: rest) := by
  rw [write, Utf8.encodeChars_cons, Utf8.encodeChars_append, List.append_assoc, List.append_assoc]
  rfl

theorem object_write (fields : List (String × Json)) (rest : Bytes) :
    encodeChars (Json.object fields).write ++ rest =
      0x7B :: (encodeChars (fieldsText true fields) ++ 0x7D :: rest) := by
  rw [write, Utf8.encodeChars_cons, Utf8.encodeChars_append, List.append_assoc, List.append_assoc]
  rfl

theorem opens_array (items : List Json) (rest : Bytes) :
    Opens (encodeChars (Json.array items).write ++ rest) := by
  rw [array_write]
  exact ⟨_, _, rfl, rfl, by decide⟩

theorem opens_object (fields : List (String × Json)) (rest : Bytes) :
    Opens (encodeChars (Json.object fields).write ++ rest) := by
  rw [object_write]
  exact ⟨_, _, rfl, rfl, by decide⟩

theorem opens_string (s : String) (rest : Bytes) :
    Opens (encodeChars (Json.string s).write ++ rest) := by
  rw [write, encodeChars_writeString]
  exact ⟨_, _, rfl, rfl, by decide⟩

theorem endsNumber_itemsText (items : List Json) (rest : Bytes) :
    EndsNumber (encodeChars (itemsText false items) ++ 0x5D :: rest) := by
  intro b hb
  cases items with
  | nil =>
    obtain rfl := Option.some.inj hb
    rfl
  | cons item items =>
    obtain rfl := Option.some.inj hb
    rfl

theorem endsNumber_fieldsText (fields : List (String × Json)) (rest : Bytes) :
    EndsNumber (encodeChars (fieldsText false fields) ++ 0x7D :: rest) := by
  intro b hb
  cases fields with
  | nil =>
    obtain rfl := Option.some.inj hb
    rfl
  | cons field fields =>
    obtain rfl := Option.some.inj hb
    rfl

/-! ## Readers of what has been written -/

/-- A reader takes back what is written for a value, in fewer bytes than a bound. The text of the
value can stand at the beginning of a part. It is read up to its end. -/
structure TakesBack (bound : Nat) (reader : Bytes → Except Stop (α × Bytes)) (j : Json) (x : α) :
    Prop where
  opens : ∀ rest, Opens (encodeChars j.write ++ rest)
  reads : ∀ rest, EndsNumber rest → (encodeChars j.write ++ rest).length < bound →
    reader (encodeChars j.write ++ rest) = .ok (x, rest)

/-- The items that are left of a list are read back. -/
theorem readItems_itemsText {item : Bytes → Except Stop (α × Bytes)} {js : List Json} {xs : List α}
    (h : List.Forall₂ (TakesBack bound item) js xs) (left : Nat) (first : Bool) (done : List α)
    (rest : Bytes)
    (hleft : (encodeChars (itemsText first js) ++ 0x5D :: rest).length < left)
    (hbound : (encodeChars (itemsText first js) ++ 0x5D :: rest).length < bound) :
    readItems item left first done (encodeChars (itemsText first js) ++ 0x5D :: rest) =
      .ok (done.reverse ++ xs, rest) := by
  induction h generalizing left first done with
  | nil =>
    obtain ⟨left, rfl⟩ : ∃ l, left = l + 1 := ⟨left - 1, by omega⟩
    rw [itemsText_nil]
    simp [readItems, nextItem_close, bind, Except.bind, pure, Except.pure]
  | @cons j x js xs hj hjs ih =>
    rw [itemsText_cons] at hleft hbound ⊢
    simp only [List.length_append, List.length_cons] at hleft hbound ih
    have hopens := (hj.opens (encodeChars (itemsText false js) ++ 0x5D :: rest))
    have hread := hj.reads _ (endsNumber_itemsText js rest) (by
      simp only [List.length_append, List.length_cons]
      omega)
    have hpos : 0 < (encodeChars j.write).length := by
      obtain ⟨b, tail, htext, -⟩ := hj.opens []
      rw [List.append_nil] at htext
      rw [htext]
      exact Nat.zero_lt_succ _
    obtain ⟨left, rfl⟩ : ∃ l, left = l + 1 := ⟨left - 1, by omega⟩
    have hmore := ih left false (x :: done) (by omega) (by omega)
    rw [readItems]
    simp [nextItem_part first hopens, hread, hmore, bind, Except.bind]

/-- The fields that are left of an object are read back. -/
theorem readFields_fieldsText {value : Bytes → Except Stop (α × Bytes)}
    {js : List (String × Json)} {xs : List (String × α)}
    (h : List.Forall₂ (fun j x => j.1 = x.1 ∧ TakesBack bound value j.2 x.2) js xs) (left : Nat)
    (first : Bool) (done : Table α) (rest : Bytes)
    (hleft : (encodeChars (fieldsText first js) ++ 0x7D :: rest).length < left)
    (hbound : (encodeChars (fieldsText first js) ++ 0x7D :: rest).length < bound) :
    readFields value left first done (encodeChars (fieldsText first js) ++ 0x7D :: rest) =
      .ok (xs.foldl (fun t pair => Table.insert pair.1 pair.2 t) done, rest) := by
  induction h generalizing left first done with
  | nil =>
    obtain ⟨left, rfl⟩ : ∃ l, left = l + 1 := ⟨left - 1, by omega⟩
    rw [fieldsText_nil]
    simp [readFields, nextKey_close, bind, Except.bind, pure, Except.pure]
  | @cons j x js xs hj hjs ih =>
    obtain ⟨key, j⟩ := j
    obtain ⟨hkey, hj⟩ := hj
    simp only at hkey hj
    subst hkey
    rw [fieldsText_cons] at hleft hbound ⊢
    simp only [List.length_append, List.length_cons] at hleft hbound ih
    have hread := hj.reads _ (endsNumber_fieldsText js rest) (by
      simp only [List.length_append, List.length_cons]
      omega)
    obtain ⟨left, rfl⟩ : ∃ l, left = l + 1 := ⟨left - 1, by omega⟩
    have hmore := ih left false (Table.insert x.1 x.2 done) (by omega) (by omega)
    rw [readFields]
    simp [nextKey_part, readString_written, readColon_colon, hread, hmore, bind, Except.bind]

/-! ## Values -/

theorem opens_integer (i : Int) (rest : Bytes) :
    Opens (encodeChars (writeNumber (.integer i)) ++ rest) := by
  rw [writeNumber_integer]
  by_cases hneg : i < 0
  · rw [if_pos hneg]
    exact ⟨0x2D, _, rfl, rfl, by decide⟩
  · obtain ⟨b, tail, hbytes, hb⟩ := exists_isDigit_toDigits i.natAbs
    have hne {c : UInt8} (hc : isDigit c = false) : b ≠ c := ne_of_isDigit hb hc
    rw [if_neg hneg, List.nil_append, hbytes]
    refine ⟨b, tail ++ rest, rfl, ?_, hne rfl⟩
    simp [isSpace, hne (c := 0x20) rfl, hne (c := 0x0A) rfl, hne (c := 0x09) rfl,
      hne (c := 0x0D) rfl]

theorem readScalar_integer {i : Int} (hi : JsonNumber.IsLong i) (hrest : EndsNumber rest) :
    readScalar (encodeChars (writeNumber (.integer i)) ++ rest) =
      .ok (some (.number (.integer i), rest)) := by
  obtain ⟨hlow, hhigh⟩ := hi
  rw [writeNumber_integer]
  by_cases hneg : i < 0
  · have hread := readNumber_toDigits true (m := i.natAbs) (by omega) hrest
    have hnumber : integerNumber true i.natAbs = .integer i := by
      rw [integerNumber, if_neg (by decide), if_pos (by omega)]
      congr 1
      omega
    rw [if_pos hneg, Utf8.encodeChars_append, List.append_assoc]
    change readScalar (0x2D :: _) = _
    simp [readScalar, hread, hnumber, bind, Except.bind, pure, Except.pure]
  · have hread := readNumber_toDigits false (m := i.natAbs) (by omega) hrest
    have hnumber : integerNumber false i.natAbs = .integer i := by
      rw [integerNumber, if_pos (by decide)]
      congr 1
      omega
    obtain ⟨b, tail, hbytes, hb⟩ := exists_isDigit_toDigits i.natAbs
    have hne {c : UInt8} (hc : isDigit c = false) : b ≠ c := ne_of_isDigit hb hc
    rw [if_neg hneg, List.nil_append]
    rw [hbytes, List.cons_append] at hread ⊢
    simp [readScalar, hne (c := 0x6E) rfl, hne (c := 0x74) rfl, hne (c := 0x66) rfl,
      hne (c := 0x2D) rfl, hb, hread, hnumber, bind, Except.bind, pure, Except.pure]

/-- A value without parts is taken back by the reader of values when its text is read as one. -/
theorem takesBack_of_readScalar {j : Json} (depth : Nat)
    (hopens : ∀ rest, Opens (encodeChars j.write ++ rest))
    (hread : ∀ rest, EndsNumber rest →
      readScalar (encodeChars j.write ++ rest) = .ok (some (j, rest))) :
    TakesBack bound (readValue bound depth) j j := by
  refine ⟨hopens, fun rest hrest _ => ?_⟩
  have hscalar := hread rest hrest
  rw [← (hopens rest).skipSpace] at hscalar
  cases depth <;> simp [readValue, hscalar, bind, Except.bind, pure, Except.pure]

theorem takesBack_array {items : List Json} {depth : Nat}
    (h : ∀ item ∈ items, TakesBack bound (readValue bound depth) item item) :
    TakesBack bound (readValue bound (depth + 1)) (.array items) (.array items) := by
  refine ⟨opens_array items, fun rest _ hbound => ?_⟩
  rw [array_write, List.length_cons] at hbound
  have hread := readItems_itemsText (List.forall₂_same.2 h) bound true [] rest (by omega)
    (by omega)
  have hspace (tail : Bytes) : skipSpace (0x5B :: tail) = 0x5B :: tail := rfl
  have hscalar (tail : Bytes) : readScalar (0x5B :: tail) = .ok none := rfl
  rw [array_write]
  simp [readValue, hspace, hscalar, hread, bind, Except.bind, pure, Except.pure]

theorem takesBack_object {fields : Table Json} {depth : Nat} (hsorted : fields.Sorted)
    (h : ∀ field ∈ fields, TakesBack bound (readValue bound depth) field.2 field.2) :
    TakesBack bound (readValue bound (depth + 1)) (.object fields) (.object fields) := by
  refine ⟨opens_object fields, fun rest _ hbound => ?_⟩
  rw [object_write, List.length_cons] at hbound
  have hread := readFields_fieldsText
    (List.forall₂_same.2 fun field hfield => ⟨rfl, h field hfield⟩) bound true [] rest
    (by omega) (by omega)
  change _ = Except.ok (Table.ofList fields, rest) at hread
  rw [Table.ofList_of_sorted hsorted] at hread
  have hspace (tail : Bytes) : skipSpace (0x7B :: tail) = 0x7B :: tail := rfl
  have hscalar (tail : Bytes) : readScalar (0x7B :: tail) = .ok none := rfl
  rw [object_write]
  simp [readValue, hspace, hscalar, hread, bind, Except.bind, pure, Except.pure]

/-- A value with integers of 64 bits is taken back by the reader of values, if it is not too deep. -/
theorem takesBack_readValue {j : Json} (h : WellFormed JsonNumber.Exact j) (depth : Nat)
    (hdepth : j.depth ≤ depth) : TakesBack bound (readValue bound depth) j j := by
  induction h generalizing depth with
  | null => exact takesBack_of_readScalar depth (fun _ => ⟨_, _, rfl, rfl, by decide⟩) fun _ _ => rfl
  | bool b =>
    cases b with
    | true =>
      exact takesBack_of_readScalar depth (fun _ => ⟨_, _, rfl, rfl, by decide⟩) fun _ _ => rfl
    | false =>
      exact takesBack_of_readScalar depth (fun _ => ⟨_, _, rfl, rfl, by decide⟩) fun _ _ => rfl
  | @number n hn =>
    cases n with
    | integer i =>
      exact takesBack_of_readScalar depth (opens_integer i) fun _ => readScalar_integer hn
    | float f => exact hn.elim
  | string s =>
    refine takesBack_of_readScalar depth (opens_string s) fun rest _ => ?_
    rw [write, encodeChars_writeString]
    simp [readScalar, isDigit, readString_written, bind, Except.bind, pure, Except.pure]
  | array _ ih =>
    rw [Json.depth] at hdepth
    obtain ⟨depth, rfl⟩ : ∃ d, depth = d + 1 := ⟨depth - 1, by omega⟩
    have hdepths := depthItems_le_iff.1 (Nat.le_of_succ_le_succ hdepth)
    exact takesBack_array fun item hitem => ih item hitem depth (hdepths item hitem)
  | object hsorted _ ih =>
    rw [Json.depth] at hdepth
    obtain ⟨depth, rfl⟩ : ∃ d, depth = d + 1 := ⟨depth - 1, by omega⟩
    have hdepths := depthFields_le_iff.1 (Nat.le_of_succ_le_succ hdepth)
    exact takesBack_object hsorted fun field hfield => ih field hfield depth (hdepths field hfield)

/-! ## Documents -/

/-- A document that has been written for a value is read as what the reader takes back. -/
theorem readDocument_write {reader : Nat → Bytes → Except Stop (α × Bytes)} {j : Json} {x : α}
    (h : ∀ bound, TakesBack bound (reader bound) j x) :
    readDocument reader (encodeChars j.write) = .ok x := by
  have hread := (h ((encodeChars j.write).length + 1)).reads [] nofun (by simp)
  rw [List.append_nil] at hread
  simp [readDocument, hread, skipSpace]

/-- **A document that has been written for a value with integers of 64 bits is read as that value.** -/
theorem read_write {j : Json} (h : WellFormed JsonNumber.Exact j) (hdepth : j.depth ≤ maxDepth) :
    read (encodeChars j.write) = .ok j :=
  readDocument_write fun _ => takesBack_readValue h maxDepth hdepth

end Switchboard.Json
