import Switchboard.Proofs.Table
import Switchboard.Json.Basic

/-!
# What values are made of

A document can hold a value when the keys of its objects are in order and its integers have at most
64 bits. Which numbers are allowed is left open here, since some laws are about all numbers and
others about integers only. The depth of a value is how many lists and objects stand inside each
other.
-/

namespace Switchboard

namespace JsonNumber

/-- The integers of 64 bits, with a sign or without. -/
def IsLong (i : Int) : Prop := -0x8000000000000000 ≤ i ∧ i < 0x10000000000000000

instance (i : Int) : Decidable (IsLong i) := inferInstanceAs (Decidable (_ ∧ _))

/-- A number that documents can hold: an integer among them is of 64 bits. -/
def Fits : JsonNumber → Prop
  | .integer i => IsLong i
  | .float _ => True

/-- An integer of 64 bits, which documents hold without loss. -/
def Exact : JsonNumber → Prop
  | .integer i => IsLong i
  | .float _ => False

end JsonNumber

namespace Json

/-- A value whose objects have their keys in order and whose numbers are all of a kind. -/
inductive WellFormed (N : JsonNumber → Prop) : Json → Prop where
  | null : WellFormed N .null
  | bool (b : Bool) : WellFormed N (.bool b)
  | number {n : JsonNumber} : N n → WellFormed N (.number n)
  | string (s : String) : WellFormed N (.string s)
  | array {items : List Json} : (∀ item ∈ items, WellFormed N item) → WellFormed N (.array items)
  | object {fields : Table Json} : Table.Sorted fields →
      (∀ field ∈ fields, WellFormed N field.2) → WellFormed N (.object fields)

mutual

/-- How many lists and objects stand inside each other. -/
def depth : Json → Nat
  | .array items => depthItems items + 1
  | .object fields => depthFields fields + 1
  | _ => 0

/-- The greatest depth of some values. -/
def depthItems : List Json → Nat
  | [] => 0
  | item :: rest => max (depth item) (depthItems rest)

/-- The greatest depth of the values of some fields. -/
def depthFields : List (String × Json) → Nat
  | [] => 0
  | (_, value) :: rest => max (depth value) (depthFields rest)

end

theorem depthItems_le_iff {items : List Json} {n : Nat} :
    depthItems items ≤ n ↔ ∀ item ∈ items, item.depth ≤ n := by
  induction items with
  | nil => simp [depthItems]
  | cons item rest ih => simp [depthItems, ih]

theorem depthFields_le_iff {fields : List (String × Json)} {n : Nat} :
    depthFields fields ≤ n ↔ ∀ field ∈ fields, field.2.depth ≤ n := by
  induction fields with
  | nil => simp [depthFields]
  | cons field rest ih =>
    obtain ⟨key, value⟩ := field
    simp [depthFields, ih]

mutual

/-- The numbers of a value. -/
def numbers : Json → List JsonNumber
  | .number n => [n]
  | .array items => numbersItems items
  | .object fields => numbersFields fields
  | _ => []

/-- The numbers of some values. -/
def numbersItems : List Json → List JsonNumber
  | [] => []
  | item :: rest => numbers item ++ numbersItems rest

/-- The numbers of the values of some fields. -/
def numbersFields : List (String × Json) → List JsonNumber
  | [] => []
  | (_, value) :: rest => numbers value ++ numbersFields rest

end

variable {N : JsonNumber → Prop}

theorem mem_numbersItems {items : List Json} {n : JsonNumber} :
    n ∈ numbersItems items ↔ ∃ item ∈ items, n ∈ item.numbers := by
  induction items with
  | nil => simp [numbersItems]
  | cons item rest ih => simp [numbersItems, ih]

theorem mem_numbersFields {fields : List (String × Json)} {n : JsonNumber} :
    n ∈ numbersFields fields ↔ ∃ field ∈ fields, n ∈ field.2.numbers := by
  induction fields with
  | nil => simp [numbersFields]
  | cons field rest ih =>
    obtain ⟨key, value⟩ := field
    simp only [numbersFields, List.mem_append, ih, List.mem_cons, exists_eq_or_imp]

/-- The numbers of a well-formed value decide of what kind they are. -/
theorem WellFormed.of_numbers {M : JsonNumber → Prop} {v : Json} (h : WellFormed M v)
    (hnumbers : ∀ n ∈ v.numbers, N n) : WellFormed N v := by
  induction h with
  | null => exact .null
  | bool b => exact .bool b
  | number => exact .number (hnumbers _ (List.mem_singleton_self _))
  | string s => exact .string s
  | array _ ih =>
    exact .array fun item hitem => ih item hitem fun n hn =>
      hnumbers n (mem_numbersItems.2 ⟨item, hitem, hn⟩)
  | object hsorted _ ih =>
    exact .object hsorted fun field hfield => ih field hfield fun n hn =>
      hnumbers n (mem_numbersFields.2 ⟨field, hfield, hn⟩)

end Json

end Switchboard
