import Switchboard.Proofs.Transport.Events

/-!
# What a sender that waits comes to

A sender that finds no room gets its answer as soon as the connection has written enough or has
ended: the message is queued behind those that are left, or it is refused.
-/

namespace Switchboard.Connection

variable {f : Framer} {c : Connection} {message : Bytes} {line : List Nat}

/-! ## Places in line -/

/-- The place behind a line comes after all its places. -/
theorem lt_behind {place : Nat} (h : place ∈ line) : place < behind line := by
  rw [behind]
  cases hmax : line.max? with
  | none =>
    rw [List.max?_eq_none_iff.1 hmax] at h
    cases h
  | some greatest =>
    exact Nat.lt_succ_of_le ((List.max?_eq_some_iff.1 hmax).2 place h)

/-- Whoever takes the place behind a line has the whole line ahead. -/
theorem ahead_behind {line' : List Nat} (h : line'.Perm (line ++ [behind line])) :
    ahead line' (some (behind line)) = line.length := by
  have hline : line.countP (· < behind line) = line.length :=
    List.countP_eq_length.2 fun place hplace => decide_eq_true (lt_behind hplace)
  rw [ahead, h.countP_eq, List.countP_append, hline]
  simp

/-! ## Answers -/

theorem enqueue_of_lt {ahead : Nat} (hstage : c.stage ≠ .ended)
    (hroom : c.queue.length + ahead < capacity) :
    c.enqueue ahead message = (.queued, { c with queue := c.queue ++ [message] }) := by
  rw [enqueue, if_neg hstage, if_pos hroom]

/-- A connection that has ended refuses. -/
theorem enqueue_of_ended (ahead : Nat) (hstage : c.stage = .ended) :
    c.enqueue ahead message = (.refused (.sendFailed "Channel closed"), c) := by
  rw [enqueue, if_pos hstage]

/-- A message is queued while the connection has not ended and there is room for it behind those
ahead. -/
theorem enqueue_eq_queued_iff {ahead : Nat} : (c.enqueue ahead message).1 = .queued ↔
    c.stage ≠ .ended ∧ c.queue.length + ahead < capacity := by
  rw [enqueue]
  split
  · simp [*]
  · split <;> simp [*]

theorem enqueue_eq_waits_iff {ahead : Nat} : (c.enqueue ahead message).1 = .waits ↔
    c.stage ≠ .ended ∧ capacity ≤ c.queue.length + ahead := by
  rw [enqueue]
  split
  · simp [*]
  · split <;> simp_all

theorem send_eq_queued_iff {ahead : Nat} : (c.send ahead message).1 = .queued ↔
    c.connected = true ∧ c.stage ≠ .ended ∧ c.queue.length + ahead < capacity := by
  rw [send]
  split <;> simp [*, enqueue_eq_queued_iff]

theorem send_eq_waits_iff {ahead : Nat} : (c.send ahead message).1 = .waits ↔
    c.connected = true ∧ c.stage ≠ .ended ∧ capacity ≤ c.queue.length + ahead := by
  rw [send]
  split <;> simp [*, enqueue_eq_waits_iff]

/-- A sender in line does not ask whether the connection is connected. -/
theorem offer_eq_queued_iff {place : Option Nat} : (c.offer line place message).1 = .queued ↔
    (place = none → c.connected = true) ∧ c.stage ≠ .ended ∧
      c.queue.length + ahead line place < capacity := by
  cases place with
  | none => simp [offer, send_eq_queued_iff]
  | some place => simp [offer, enqueue_eq_queued_iff]

theorem offer_eq_waits_iff {place : Option Nat} : (c.offer line place message).1 = .waits ↔
    (place = none → c.connected = true) ∧ c.stage ≠ .ended ∧
      capacity ≤ c.queue.length + ahead line place := by
  cases place with
  | none => simp [offer, send_eq_waits_iff]
  | some place => simp [offer, enqueue_eq_waits_iff]

/-- A sender that waits has changed nothing, and finds no room when it comes again. -/
theorem send_eq_of_waits {ahead : Nat} (h : (c.send ahead message).1 = .waits) :
    c.send ahead message = (.waits, c) ∧ c.enqueue ahead message = (.waits, c) := by
  obtain ⟨hconnected, hstage, hfull⟩ := send_eq_waits_iff.1 h
  have henqueue : c.enqueue ahead message = (.waits, c) := by
    rw [enqueue, if_neg hstage, if_neg (Nat.not_lt_of_le hfull)]
  refine ⟨?_, henqueue⟩
  rw [send, if_pos hconnected, henqueue]

/-! ## Relief -/

/-- A connection that writes takes the first of the queued messages. -/
theorem foldl_write (held heard : Bool) {count : Nat} (hstage : c.stage = .active)
    (hcount : count ≤ c.queue.length) :
    (List.replicate count Step.write).foldl (fun (f, c) step => c.step held heard f step) (f, c) =
      (f, { c with
        queue := c.queue.drop count
        written := c.written ++ (c.queue.take count).flatMap f.encode }) := by
  induction count generalizing c with
  | zero => simp
  | succ count ih =>
    cases hqueue : c.queue with
    | nil =>
      rw [hqueue] at hcount
      exact absurd hcount (Nat.not_succ_le_zero count)
    | cons first rest =>
      rw [hqueue] at hcount
      have hfirst : c.step held heard f .write =
          (f, { c with queue := rest, written := c.written ++ f.encode first }) := by
        simp only [Connection.step, hqueue, hstage, if_true]
      rw [List.replicate_succ, List.foldl_cons]
      simp only [hfirst]
      rw [ih (c := { c with queue := rest, written := c.written ++ f.encode first }) hstage
        (Nat.le_of_succ_le_succ hcount)]
      simp

/-- Whether there are senders and a receiver makes no difference to how a connection comes to
answer. -/
theorem step_eq_of_mem_relief {c' : Connection} {step : Step} (h : step ∈ c'.relief)
    (held heard : Bool) (f : Framer) (c : Connection) :
    c.step held heard f step = c.step true true f step := by
  rw [relief] at h
  split at h
  · rw [(List.mem_replicate.1 h).2]
    rfl
  · rcases List.mem_cons.1 h with rfl | h
    · rfl
    · rw [List.mem_singleton.1 h]
      rfl

/-- What a sender comes to that waits for the answer of a connection. It is refused at once or queued
at once. Otherwise there was no room: the connection writes the first of the queued messages, or ends
if it has stopped reading. -/
inductive Awaits (f : Framer) (c : Connection) (message : Bytes) :
    Sent → Framer → Connection → Prop where
  | refused (e : TransportError) : Awaits f c message (.refused e) f c
  | queued (hroom : c.queue.length < capacity) :
      Awaits f c message .queued f { c with queue := c.queue ++ [message] }
  | relieved (count : Nat) (hcount : count ≤ c.queue.length) :
      Awaits f c message .queued f
        { c with
          queue := c.queue.drop count ++ [message]
          written := c.written ++ (c.queue.take count).flatMap f.encode }
  | ended (f' : Framer) (e : TransportError) :
      Awaits f c message (.refused e) f' { c with stage := .ended, connected := false }

/-- A connection that reads and writes makes room. -/
theorem exists_relieve_of_active (f : Framer) (hstage : c.stage = .active) :
    ∃ count ≤ c.queue.length, (c.queue.drop count).length + 0 < capacity ∧
      c.relieve f = (f, { c with
        queue := c.queue.drop count
        written := c.written ++ (c.queue.take count).flatMap f.encode }) := by
  have hcount : c.queue.length + 1 - capacity ≤ c.queue.length := by
    rw [capacity]
    omega
  refine ⟨_, hcount, ?_, ?_⟩
  · rw [Nat.add_zero, List.length_drop, capacity]
    omega
  · simp only [relieve, relief, if_pos hstage, foldl_write true true hstage hcount]

/-- A connection that has stopped reading ends. -/
theorem relieve_of_not_active (hstage : c.stage ≠ .active) (hended : c.stage ≠ .ended) :
    ∃ f', c.relieve f = (f', { c with stage := .ended, connected := false }) := by
  rw [relieve, relief, if_neg hstage]
  cases h : c.stage with
  | active => exact absurd h hstage
  | leaving => exact ⟨f.clear, by simp [Connection.step, h]⟩
  | cleared => exact ⟨f, by simp [Connection.step, h]⟩
  | ended => exact absurd h hended

/-- An answer that comes at once is not waited for. -/
theorem await_of_not_waits (f : Framer) (h : (c.send 0 message).1 ≠ .waits) :
    c.await f message = ((c.send 0 message).1, f, (c.send 0 message).2) := by
  rw [await]
  split
  · next hsend => exact absurd (congrArg Prod.fst hsend) h
  · next hsend => rw [hsend]

/-- A connection that reads and writes queues the message when it has made room. -/
theorem await_of_active (f : Framer) (h : (c.send 0 message).1 = .waits)
    (hstage : c.stage = .active) :
    ∃ count ≤ c.queue.length, c.await f message = (.queued, f, { c with
      queue := c.queue.drop count ++ [message]
      written := c.written ++ (c.queue.take count).flatMap f.encode }) := by
  obtain ⟨-, hended, -⟩ := send_eq_waits_iff.1 h
  obtain ⟨count, hcount, hroom, hrelieve⟩ := exists_relieve_of_active f hstage
  refine ⟨count, hcount, ?_⟩
  simp only [await, (send_eq_of_waits h).1, hrelieve]
  rw [enqueue_of_lt]
  · exact hended
  · exact hroom

/-- A connection that has stopped reading refuses the message when it has ended. -/
theorem await_of_not_active (f : Framer) (h : (c.send 0 message).1 = .waits)
    (hstage : c.stage ≠ .active) :
    ∃ f', c.await f message = (.refused (.sendFailed "Channel closed"), f',
      { c with stage := .ended, connected := false }) := by
  obtain ⟨-, hended, -⟩ := send_eq_waits_iff.1 h
  obtain ⟨f', hrelieve⟩ := relieve_of_not_active (f := f) hstage hended
  refine ⟨f', ?_⟩
  simp only [await, (send_eq_of_waits h).1, hrelieve]
  rw [enqueue_of_ended 0 rfl]

theorem awaits_await (f : Framer) (c : Connection) (message : Bytes) :
    Awaits f c message (c.await f message).1 (c.await f message).2.1 (c.await f message).2.2 := by
  by_cases hwaits : (c.send 0 message).1 = .waits
  · by_cases hstage : c.stage = .active
    · obtain ⟨count, hcount, hawait⟩ := await_of_active f hwaits hstage
      rw [hawait]
      exact .relieved count hcount
    · obtain ⟨f', hawait⟩ := await_of_not_active f hwaits hstage
      rw [hawait]
      exact .ended f' _
  · have hoffers := offers_send c 0 message
    rw [await_of_not_waits f hwaits]
    generalize c.send 0 message = result at hwaits hoffers
    obtain ⟨sent, c'⟩ := result
    cases hoffers with
    | queued hroom => exact .queued hroom
    | waits => exact absurd rfl hwaits
    | refused e => exact .refused e

/-- The answer comes. -/
theorem await_ne_waits (f : Framer) (c : Connection) (message : Bytes) :
    (c.await f message).1 ≠ .waits := by
  have h := awaits_await f c message
  intro hwaits
  rw [hwaits] at h
  cases h

/-- A message is queued in the end if the connection is connected and reads or has room. -/
theorem await_eq_queued_iff : (c.await f message).1 = .queued ↔
    c.connected = true ∧ c.stage ≠ .ended ∧ (c.stage = .active ∨ c.queue.length < capacity) := by
  by_cases hwaits : (c.send 0 message).1 = .waits
  · obtain ⟨hconnected, hended, hfull⟩ := send_eq_waits_iff.1 hwaits
    by_cases hstage : c.stage = .active
    · obtain ⟨count, -, hawait⟩ := await_of_active f hwaits hstage
      simp [hawait, hconnected, hstage]
    · obtain ⟨f', hawait⟩ := await_of_not_active f hwaits hstage
      simp [hawait, hstage, Nat.not_lt.2 (Nat.add_zero _ ▸ hfull)]
  · rw [await_of_not_waits f hwaits, send_eq_queued_iff, Nat.add_zero]
    rw [send_eq_waits_iff, Nat.add_zero] at hwaits
    constructor
    · rintro ⟨hconnected, hended, hroom⟩
      exact ⟨hconnected, hended, .inr hroom⟩
    · rintro ⟨hconnected, hended, -⟩
      exact ⟨hconnected, hended, Nat.lt_of_not_le fun hfull => hwaits ⟨hconnected, hended, hfull⟩⟩

end Switchboard.Connection
