/-!
# Tables in key order

A table is a list of key and value pairs whose keys increase strictly, so two tables that answer
alike are equal. Keys are compared by code points, which is also the order of their UTF-8 bytes.
-/

namespace Switchboard

/-- Pairs of keys and values. -/
abbrev Table (α : Type) := List (String × α)

namespace Table

variable {α : Type}

/-- The value of a key. -/
def find? (key : String) : Table α → Option α
  | [] => none
  | (k, v) :: rest => if k = key then some v else find? key rest

/-- Binds a key, in place of what it was bound to. -/
def insert (key : String) (value : α) : Table α → Table α
  | [] => [(key, value)]
  | (k, v) :: rest =>
    if key = k then (key, value) :: rest
    else if key < k then (key, value) :: (k, v) :: rest
    else (k, v) :: insert key value rest

/-- The keys, in order. -/
def keys (t : Table α) : List String := t.map Prod.fst

/-- The keys increase strictly. -/
def Sorted (t : Table α) : Prop := t.keys.Pairwise (· < ·)

/-- The table of a list of pairs; a later pair replaces an earlier one of its key. -/
def ofList (pairs : List (String × α)) : Table α :=
  pairs.foldl (fun t pair => insert pair.1 pair.2 t) []

@[simp] theorem find?_nil (key : String) : find? key ([] : Table α) = none := rfl

/-- Binding a key changes the answer for that key only. -/
theorem find?_insert (key other : String) (value : α) (t : Table α) :
    find? other (insert key value t) = if key = other then some value else find? other t := by
  induction t with
  | nil => simp [insert, find?]
  | cons pair rest ih =>
    obtain ⟨k, v⟩ := pair
    simp only [insert]
    split
    · next h =>
      subst h
      by_cases hk : key = other <;> simp [find?, hk]
    · split
      · by_cases hk : key = other <;> simp [find?, hk]
      · next hne _ =>
        simp only [find?, ih]
        by_cases hk : k = other
        · have : key ≠ other := fun h => hne (h.trans hk.symm)
          simp [hk, this]
        · simp [hk]

end Table

end Switchboard
