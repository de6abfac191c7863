import Switchboard.Module.Submission

/-!
# Submissions and messages

What a module sends on for one connection after the other, each event as its turn comes, is an
interleaving of what it sends on for each of them. What it sends over a connection is a payload of
bytes or of text.
-/

namespace Switchboard

/-- The message that a payload of bytes or of text is sent as. -/
theorem Payload.intoBytes_eq_ok {p : Payload} {message : Bytes}
    (h : p = .bytes message ∨ ∃ t, p = .text t ∧ message = Utf8.encode t) :
    p.intoBytes = .ok message := by
  rcases h with rfl | ⟨t, rfl, rfl⟩
  · rfl
  · rfl

theorem Payload.intoBytes_eq_error {p : Payload} (hbytes : ∀ b, p ≠ .bytes b)
    (htext : ∀ t, p ≠ .text t) : p.intoBytes = .error ⟨"bytes", p.kind⟩ := by
  cases p with
  | bytes b => exact absurd rfl (hbytes b)
  | text t => exact absurd rfl (htext t)
  | int | float | bool | json => rfl

/-- The sequences of `parts` put together into one, an element at a time and each from the front of
any of them. -/
inductive Interleaving {α : Type} : List (List α) → List α → Prop where
  | done {parts : List (List α)} (h : ∀ part ∈ parts, part = []) : Interleaving parts []
  | next {parts : List (List α)} {n : Nat} {a : α} {rest whole : List α}
      (hpart : parts[n]? = some (a :: rest)) (h : Interleaving (parts.set n rest) whole) :
      Interleaving parts (a :: whole)

namespace Submission

/-- What a router sees of a submission: under which id it comes, and what it is. -/
def event (s : Submission) : String × Payload := (s.source, s.payload)

theorem ofConnection_append (n : Nat) (all more : List Submission) :
    ofConnection n (all ++ more) = ofConnection n all ++ ofConnection n more :=
  List.filter_append all more

theorem ofConnection_cons (n : Nat) (s : Submission) (rest : List Submission) :
    ofConnection n (s :: rest) =
      if s.connection = n then s :: ofConnection n rest else ofConnection n rest := by
  by_cases h : s.connection = n <;> simp [ofConnection, h]

/-- Messages of a connection are its own. -/
theorem ofConnection_map_bytes (source : String) (n : Nat) (messages : List Bytes) :
    ofConnection n (messages.map fun message => ⟨n, source, .bytes message⟩) =
      messages.map fun message => ⟨n, source, .bytes message⟩ := by
  rw [ofConnection, List.filter_eq_self]
  intro s hs
  obtain ⟨message, -, rfl⟩ := List.mem_map.1 hs
  exact beq_self_eq_true n

/-- They are those of no other connection. -/
theorem ofConnection_map_bytes_of_ne {n k : Nat} (source : String) (messages : List Bytes)
    (h : k ≠ n) :
    ofConnection n (messages.map fun message => ⟨k, source, .bytes message⟩) = [] := by
  rw [ofConnection, List.filter_eq_nil_iff]
  intro s hs hconnection
  obtain ⟨message, -, rfl⟩ := List.mem_map.1 hs
  exact h (eq_of_beq hconnection)

/-- The whole sequence is an interleaving of those of the connections. -/
theorem interleaving_ofConnection {count : Nat} {all : List Submission}
    (h : ∀ s ∈ all, s.connection < count) :
    Interleaving ((List.range count).map fun n => (ofConnection n all).map event)
      (all.map event) := by
  induction all with
  | nil =>
    refine .done fun part hpart => ?_
    obtain ⟨n, -, rfl⟩ := List.mem_map.1 hpart
    rfl
  | cons s rest ih =>
    have hs : s.connection < count := h s List.mem_cons_self
    have hrest := ih fun s' hs' => h s' (List.mem_cons_of_mem s hs')
    -- What comes first is taken from the front of the sequence of its own connection.
    have hset : ((List.range count).map fun n => (ofConnection n (s :: rest)).map event).set
        s.connection ((ofConnection s.connection rest).map event) =
          (List.range count).map fun n => (ofConnection n rest).map event := by
      refine List.ext_getElem? fun n => ?_
      by_cases hn : s.connection = n
      · subst hn
        simp [hs]
      · by_cases hlt : n < count <;> simp [hn, hlt, ofConnection_cons]
    have hpart : ((List.range count).map fun n => (ofConnection n (s :: rest)).map event)[
        s.connection]? = some (s.event :: (ofConnection s.connection rest).map event) := by
      simp [hs, ofConnection_cons]
    exact .next hpart (hset ▸ hrest)

end Submission

end Switchboard
