import Switchboard.Proofs.Framing.Consumption
import Switchboard.Transport.Connection

/-!
# What a connection tells its receiver

`Moves` says what a step of a connection can do, with one case for each kind of step. Against it
stands `Tells`: what the receiver has been told by a connection that has read some chunks is the
messages of these chunks, and after the end of reading at most one event more.
-/

namespace Switchboard

/-- The message that an event brings, if it brings one. -/
def TransportEvent.message? : TransportEvent → Option Bytes
  | .data message => some message
  | .disconnected | .error _ => none

namespace Connection

variable {held heard : Bool} {start f f' : Framer} {c c' : Connection} {step : Step}
variable {chunks new : List Bytes} {told taken : List TransportEvent}

/-! ## Steps -/

/-- The chunk that a step reads, if it reads one. -/
def readBy (c : Connection) : Step → List Bytes
  | .read chunk => if c.stage = .active then [chunk] else []
  | _ => []

/-- A step of a connection: what it needs, the chunk that it reads, and what becomes of the framer
and of the connection. -/
inductive Moves (held heard : Bool) (f : Framer) (c : Connection) :
    Step → List Bytes → Framer → Connection → Prop where
  | read {chunk : Bytes} {messages : List Bytes} {g : Framer} (hstage : c.stage = .active)
      (hdecode : f.decode chunk = (.ok messages, g)) :
      Moves held heard f c (.read chunk) [chunk] g (c.deliver heard messages)
  | refuse {chunk : Bytes} {e : TransportError} {g : Framer} (hstage : c.stage = .active)
      (hdecode : f.decode chunk = (.error e, g)) :
      Moves held heard f c (.read chunk) [chunk] g ((c.tell heard (.error e.message)).leave)
  | endOfStream (hstage : c.stage = .active) :
      Moves held heard f c .endOfStream [] f ((c.tell heard .disconnected).leave)
  | broken {reason : String} (hstage : c.stage = .active) :
      Moves held heard f c (.broken reason) [] f ((c.tell heard (.error reason)).leave)
  | write {message : Bytes} {rest : List Bytes} (hstage : c.stage = .active)
      (hqueue : c.queue = message :: rest) :
      Moves held heard f c .write [] f
        { c with queue := rest, written := c.written ++ f.encode message }
  | abandoned (hstage : c.stage = .active) (hheld : held = false) :
      Moves held heard f c .abandoned [] f c.leave
  | clear (hstage : c.stage = .leaving) :
      Moves held heard f c .clear [] f.clear { c with stage := .cleared }
  | finish (hstage : c.stage = .cleared) :
      Moves held heard f c .finish [] f { c with stage := .ended, connected := false }
  | idle {step : Step} : Moves held heard f c step [] f c

/-- Every step is one of these. -/
theorem moves_step (held heard : Bool) (f : Framer) (c : Connection) (step : Step) :
    Moves held heard f c step (c.readBy step) (c.step held heard f step).1
      (c.step held heard f step).2 := by
  cases step with
  | read chunk =>
    simp only [Connection.step, readBy]
    split
    · next hstage =>
      split
      · next hdecode => exact .read hstage hdecode
      · next hdecode => exact .refuse hstage hdecode
    · exact .idle
  | endOfStream =>
    simp only [Connection.step, readBy]
    split
    · next hstage => exact .endOfStream hstage
    · exact .idle
  | broken reason =>
    simp only [Connection.step, readBy]
    split
    · next hstage => exact .broken hstage
    · exact .idle
  | write =>
    simp only [Connection.step, readBy]
    split
    · next hqueue =>
      split
      · next hstage => exact .write hstage hqueue
      · exact .idle
    · exact .idle
  | abandoned =>
    simp only [Connection.step, readBy]
    split
    · next h => exact .abandoned h.1 h.2.2
    · exact .idle
  | clear =>
    simp only [Connection.step, readBy]
    split
    · next hstage => exact .clear hstage
    · exact .idle
  | finish =>
    simp only [Connection.step, readBy]
    split
    · next hstage => exact .finish hstage
    · exact .idle

/-- Whatever it does, a connection calls its framer as anybody does. -/
theorem Moves.reaches (h : Moves held heard f c step new f' c') (hf : start.Reaches f) :
    start.Reaches f' := by
  cases h with
  | read _ hdecode | refuse _ hdecode =>
    have hcall := hf.decode
    rw [← show (f.decode _).2 = f' from congrArg Prod.snd hdecode]
    exact hcall _
  | clear => exact hf.clear
  | _ => exact hf

theorem deliver_true (messages : List Bytes) :
    c.deliver true messages = { c with events := c.events ++ messages.map .data } := rfl

theorem tell_true (e : TransportEvent) : c.tell true e = { c with events := c.events ++ [e] } := rfl

/-- Only a connection that reads has read something, and none begins to read anew. -/
theorem Moves.stage_eq_active (h : Moves held heard f c step new f' c')
    (hreads : new ≠ [] ∨ c'.stage = .active) : c.stage = .active := by
  cases h with
  | read hstage | refuse hstage | endOfStream hstage | broken hstage | write hstage
  | abandoned hstage => exact hstage
  | clear | finish =>
    rcases hreads with hnew | hstage'
    · exact absurd rfl hnew
    · nomatch hstage'
  | idle => exact hreads.resolve_left (absurd rfl ·)

/-- A connection that reads on has read what it has read with success. -/
theorem Moves.consume_eq_ok (h : Moves held heard f c step new f' c')
    (hf : (start.consume chunks).2 = .ok f) (hstage' : c'.stage = .active) :
    (start.consume (chunks ++ new)).2 = .ok f' := by
  cases h with
  | read _ hdecode => rw [Framer.consume_concat_of_ok hf hdecode]
  | refuse | endOfStream | broken | abandoned | clear | finish => nomatch hstage'
  | write | idle => rwa [List.append_nil]

/-- The connection has cleared its framer and has no more to do with it. -/
def Settled (c : Connection) : Prop := c.stage = .cleared ∨ c.stage = .ended

/-- Once it has cleared the framer, a connection leaves it alone. -/
theorem Moves.settled (h : Moves held heard f c step new f' c') (hc : c.Settled) :
    c'.Settled ∧ f' = f := by
  have hne : c.stage ≠ .active ∧ c.stage ≠ .leaving := by
    rcases hc with hstage | hstage <;> rw [hstage] <;> exact ⟨nofun, nofun⟩
  cases h with
  | read hstage | refuse hstage | endOfStream hstage | broken hstage | write hstage
  | abandoned hstage => exact absurd hstage hne.1
  | clear hstage => exact absurd hstage hne.2
  | finish => exact ⟨.inr rfl, rfl⟩
  | idle => exact ⟨hc, rfl⟩

theorem not_settled_of_active (hstage : c.stage = .active) : ¬ c.Settled := by
  rw [Settled, hstage]
  rintro (h | h) <;> nomatch h

theorem not_settled_leave (c : Connection) : ¬ c.leave.Settled := by
  rintro (h | h) <;> nomatch h

theorem not_settled_deliver (messages : List Bytes) (hstage : c.stage = .active) :
    ¬ (c.deliver heard messages).Settled := by
  simp only [deliver]
  split
  · exact not_settled_of_active hstage
  · split
    · exact not_settled_of_active hstage
    · exact not_settled_leave c

/-- The step by which a connection comes to be done with the framer clears it. -/
theorem Moves.eq_clear_of_settled (h : Moves held heard f c step new f' c') (hc : ¬ c.Settled)
    (hc' : c'.Settled) : f' = f.clear := by
  cases h with
  | clear => rfl
  | finish hstage => exact absurd (.inl hstage) hc
  | idle => exact absurd hc' hc
  | read hstage => exact absurd hc' (not_settled_deliver _ hstage)
  | write hstage => exact absurd hc' (not_settled_of_active hstage)
  | refuse | endOfStream | broken | abandoned => exact absurd hc' (not_settled_leave _)

/-- A connection that has stopped reading is two steps of its own away from its end. -/
theorem stage_clear_finish (held heard held' heard' : Bool) (f f' : Framer)
    (hstage : c.stage ≠ .active) :
    ((c.step held heard f .clear).2.step held' heard' f' .finish).2.stage = .ended := by
  cases h : c.stage with
  | active => exact absurd h hstage
  | leaving | cleared | ended => simp [Connection.step, h]

/-! ## Senders and the receiver -/

variable {message : Bytes} {e : TransportError} {ahead : Nat} {line : List Nat} {place : Option Nat}

/-- What a sender is told, and what becomes of the connection: a message is queued, if there is room,
or nothing happens to the connection. -/
inductive Offers (c : Connection) (message : Bytes) : Sent → Connection → Prop where
  | queued (hroom : c.queue.length < capacity) :
      Offers c message .queued { c with queue := c.queue ++ [message] }
  | waits : Offers c message .waits c
  | refused (e : TransportError) : Offers c message (.refused e) c

theorem offers_enqueue (c : Connection) (ahead : Nat) (message : Bytes) :
    Offers c message (c.enqueue ahead message).1 (c.enqueue ahead message).2 := by
  simp only [enqueue]
  split
  · exact .refused _
  · split
    · next hroom => exact .queued (Nat.lt_of_le_of_lt (Nat.le_add_right _ ahead) hroom)
    · exact .waits

theorem offers_send (c : Connection) (ahead : Nat) (message : Bytes) :
    Offers c message (c.send ahead message).1 (c.send ahead message).2 := by
  simp only [send]
  split
  · exact offers_enqueue c ahead message
  · exact .refused _

theorem Offers.of_enqueue {sent : Sent} (h : c.enqueue ahead message = (sent, c')) :
    Offers c message sent c' := by
  have hoffers := offers_enqueue c ahead message
  rwa [h] at hoffers

theorem Offers.of_send {sent : Sent} (h : c.send ahead message = (sent, c')) :
    Offers c message sent c' := by
  have hoffers := offers_send c ahead message
  rwa [h] at hoffers

theorem Offers.of_offer {sent : Sent} (h : c.offer line place message = (sent, c')) :
    Offers c message sent c' := by
  simp only [offer] at h
  split at h
  · exact .of_enqueue h
  · exact .of_send h

theorem Offers.exists_of_offer {sent : Sent} (h : (c.offer line place message).1 = sent) :
    ∃ c', c.offer line place message = (sent, c') ∧ Offers c message sent c' :=
  have hoffer : c.offer line place message = (sent, (c.offer line place message).2) := Prod.ext h rfl
  ⟨_, hoffer, .of_offer hoffer⟩

/-- In any case only the queue changes. -/
theorem Offers.exists_queue {sent : Sent} (h : Offers c message sent c') :
    ∃ messages, c' = { c with queue := messages } := by
  cases h with
  | queued => exact ⟨_, rfl⟩
  | waits | refused => exact ⟨c.queue, rfl⟩

/-- A queue that has kept to its room keeps to it. -/
theorem Offers.length_queue_le {sent : Sent} (h : Offers c message sent c')
    (hc : c.queue.length ≤ capacity) : c'.queue.length ≤ capacity := by
  cases h with
  | queued hroom =>
    rw [List.length_append]
    exact Nat.succ_le_of_lt hroom
  | waits | refused => exact hc

/-- A receiver gets the event that has waited the longest; when none waits, it learns whether the
connection has ended. -/
theorem receive_eq (c : Connection) :
    (∃ e rest, c.events = e :: rest ∧ c.receive = (.event e, { c with events := rest })) ∨
      (c.events = [] ∧ c.stage = .ended ∧ c.receive = (.closed, c)) ∨
        (c.events = [] ∧ c.stage ≠ .ended ∧ c.receive = (.pending, c)) := by
  simp only [receive]
  split
  · next e rest hevents => exact .inl ⟨e, rest, hevents, rfl⟩
  · next hevents =>
    by_cases hstage : c.stage = .ended
    · exact .inr (.inl ⟨hevents, hstage, by rw [if_pos hstage]⟩)
    · exact .inr (.inr ⟨hevents, hstage, by rw [if_neg hstage]⟩)

/-! ## Events -/

/-- What the receiver has been told by a connection that has read some chunks: their messages, and
after the last of them at most one event by which it learns that nothing more comes. A chunk that
was refused is the last that was read. -/
inductive Tells (start : Framer) (chunks : List Bytes) (stage : Stage)
    (told : List TransportEvent) : Prop where
  | messages {g : Framer} (hconsume : (start.consume chunks).2 = .ok g)
      (htold : told = (start.consume chunks).1.map .data)
  | ended {g : Framer} {e : TransportEvent} (hconsume : (start.consume chunks).2 = .ok g)
      (hstage : stage ≠ .active) (he : e.message? = none)
      (htold : told = (start.consume chunks).1.map .data ++ [e])
  | refused {front : List Bytes} {chunk : Bytes} {g next : Framer} {e : TransportError}
      (hchunks : chunks = front ++ [chunk]) (hconsume : (start.consume front).2 = .ok g)
      (hdecode : g.decode chunk = (.error e, next)) (hstage : stage ≠ .active)
      (htold : told = (start.consume front).1.map .data ++ [.error e.message])

variable {stage stage' : Stage}

/-- While it reads, a connection has told of messages only. -/
theorem Tells.of_active (h : Tells start chunks .active told) :
    (∃ g, (start.consume chunks).2 = .ok g) ∧ told = (start.consume chunks).1.map .data := by
  cases h with
  | messages hconsume htold => exact ⟨⟨_, hconsume⟩, htold⟩
  | ended _ hstage | refused _ _ _ hstage => exact absurd rfl hstage

/-- It does not matter for what has been told that the connection goes on to its end. -/
theorem Tells.of_stage (h : Tells start chunks stage told) (hstage' : stage' ≠ .active) :
    Tells start chunks stage' told := by
  cases h with
  | messages hconsume htold => exact .messages hconsume htold
  | ended hconsume _ he htold => exact .ended hconsume hstage' he htold
  | refused hchunks hconsume hdecode _ htold =>
    exact .refused hchunks hconsume hdecode hstage' htold

/-- In any case it is the messages of the chunks, and an event without a message at most. -/
theorem Tells.exists_ending (h : Tells start chunks stage told) :
    ∃ ending, told = (start.consume chunks).1.map .data ++ ending ∧
      (ending = [] ∨ stage ≠ .active ∧ ∃ e : TransportEvent, e.message? = none ∧ ending = [e]) := by
  cases h with
  | messages hconsume htold => exact ⟨[], by rw [htold, List.append_nil], .inl rfl⟩
  | ended _ hstage he htold => exact ⟨_, htold, .inr ⟨hstage, _, he, rfl⟩⟩
  | @refused front chunk g next e hchunks hconsume hdecode hstage htold =>
    refine ⟨[.error e.message], ?_, .inr ⟨hstage, .error e.message, rfl, rfl⟩⟩
    rw [htold, hchunks, Framer.consume_concat_of_error hconsume hdecode]

/-- One step of a connection with a receiver keeps to this. -/
theorem Moves.tells (h : Moves held true f c step new f' c')
    (ht : Tells start chunks c.stage (taken ++ c.events))
    (hf : new ≠ [] → (start.consume chunks).2 = .ok f) :
    Tells start (chunks ++ new) c'.stage (taken ++ c'.events) := by
  cases h with
  | @read chunk messages _ hstage hdecode =>
    have hok := hf (List.cons_ne_nil _ _)
    obtain ⟨-, htold⟩ := (hstage ▸ ht).of_active
    rw [deliver_true, ← List.append_assoc, htold]
    have hconsume := Framer.consume_concat_of_ok hok hdecode
    refine .messages (congrArg Prod.snd hconsume) ?_
    rw [hconsume, List.map_append]
  | @refuse chunk e _ hstage hdecode =>
    have hok := hf (List.cons_ne_nil _ _)
    obtain ⟨-, htold⟩ := (hstage ▸ ht).of_active
    rw [tell_true, leave, ← List.append_assoc, htold]
    exact .refused rfl hok hdecode nofun rfl
  | endOfStream hstage | broken hstage =>
    obtain ⟨⟨g, hok⟩, htold⟩ := (hstage ▸ ht).of_active
    rw [tell_true, leave, ← List.append_assoc, htold, List.append_nil]
    exact .ended hok nofun rfl rfl
  | write | idle =>
    rw [List.append_nil]
    exact ht
  | abandoned | clear | finish =>
    rw [List.append_nil]
    exact ht.of_stage nofun

theorem filterMap_message?_map_data (messages : List Bytes) :
    (messages.map TransportEvent.data).filterMap TransportEvent.message? = messages := by
  rw [List.filterMap_map]
  exact List.filterMap_some

/-- The messages that the receiver is told of are those of the chunks. -/
theorem Tells.filterMap_message? (h : Tells start chunks stage told) :
    told.filterMap TransportEvent.message? = (start.consume chunks).1 := by
  obtain ⟨ending, htold, hending⟩ := h.exists_ending
  rw [htold, List.filterMap_append, filterMap_message?_map_data]
  rcases hending with rfl | ⟨-, e, he, rfl⟩
  · exact List.append_nil _
  · simp [he]

/-- After an event without a message nothing is told. -/
theorem Tells.of_message?_eq_none {sent : List Bytes} {e : TransportEvent}
    {rest : List TransportEvent} (h : Tells start chunks stage (sent.map .data ++ e :: rest))
    (he : e.message? = none) : stage ≠ .active ∧ sent = (start.consume chunks).1 := by
  have hmessages := h.filterMap_message?
  obtain ⟨ending, htold, hending⟩ := h.exists_ending
  have hmem : e ∈ (start.consume chunks).1.map TransportEvent.data ++ ending := by
    rw [← htold]
    exact List.mem_append_right _ List.mem_cons_self
  have hdata : e ∉ (start.consume chunks).1.map TransportEvent.data := by
    intro hmem
    obtain ⟨message, -, rfl⟩ := List.mem_map.1 hmem
    nomatch he
  have hend := (List.mem_append.1 hmem).resolve_left hdata
  rcases hending with rfl | ⟨hstage, last, -, rfl⟩
  · nomatch hend
  · -- The event that brings no message is the last, so that no message comes after it.
    obtain rfl := List.mem_singleton.1 hend
    obtain hrest | ⟨front, last, rfl⟩ := List.eq_nil_or_concat rest
    · subst hrest
      refine ⟨hstage, ?_⟩
      rw [List.filterMap_append, filterMap_message?_map_data] at hmessages
      simpa [he] using hmessages
    · rw [List.concat_eq_append, ← List.cons_append, ← List.append_assoc] at htold
      have hfront := (List.append_inj' htold rfl).1
      refine absurd ?_ hdata
      rw [← hfront]
      exact List.mem_append_right _ List.mem_cons_self

/-- A chunk that is refused is the last that is read, and its error is the last that is told. -/
theorem Tells.of_refused {front back : List Bytes} {chunk : Bytes} {g next : Framer}
    {e : TransportError} (h : Tells start chunks stage told)
    (hchunks : chunks = front ++ chunk :: back)
    (hfront : (start.consume front).2 = .ok g) (hdecode : g.decode chunk = (.error e, next)) :
    back = [] ∧ stage ≠ .active ∧
      told = (start.consume front).1.map .data ++ [.error e.message] := by
  have herror (more : List Bytes) : (start.consume (front ++ chunk :: more)).2 = .error e := by
    rw [Framer.consume_append_of_ok _ hfront, Framer.consume_cons_of_error hdecode]
  cases h with
  | messages hconsume | ended hconsume =>
    rw [hchunks, herror] at hconsume
    nomatch hconsume
  | @refused front' chunk' g' next' e' hchunks' hfront' hdecode' hstage htold =>
    rw [hchunks'] at hchunks
    obtain rfl | ⟨more, last, rfl⟩ := List.eq_nil_or_concat back
    · obtain ⟨rfl, hlast⟩ := List.append_inj' hchunks rfl
      obtain rfl := List.head_eq_of_cons_eq hlast
      obtain rfl := Except.ok.inj (hfront.symm.trans hfront')
      obtain ⟨he, -⟩ := Prod.mk.inj (hdecode.symm.trans hdecode')
      obtain rfl := Except.error.inj he
      exact ⟨rfl, hstage, htold⟩
    · -- All chunks but the last were accepted, so that a refused one has none after it.
      rw [List.concat_eq_append, ← List.cons_append, ← List.append_assoc] at hchunks
      obtain ⟨rfl, -⟩ := List.append_inj' hchunks rfl
      rw [herror] at hfront'
      nomatch hfront'

end Connection

end Switchboard
