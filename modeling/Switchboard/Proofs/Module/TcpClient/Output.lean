import Switchboard.Proofs.Module.Submission
import Switchboard.Proofs.Module.TcpClient.Reachable
import Switchboard.Proofs.Transport.Waiting

/-!
# What a client does with a payload

A payload goes to the connection whose sender the client holds. When the queue of the connection is
full, the delivery waits in its line until the connection has room or ends.
-/

namespace Switchboard.TcpClient

open Connection

variable {m : TcpClient} {message : Bytes} {n : Nat} {c : Connection} {p : Payload}

theorem getElem?_of_current? (h : m.current? = some (n, c)) : m.connections[n]? = some c := by
  obtain ⟨k, -, h⟩ := Option.bind_eq_some_iff.1 h
  obtain ⟨c', hc, h⟩ := Option.bind_eq_some_iff.1 h
  cases h
  exact hc

theorem begin_eq_ok (hcurrent : m.current? = some (n, c))
    (hmessage : p = .bytes message ∨ ∃ t, p = .text t ∧ message = Utf8.encode t) :
    m.begin p = .ok ⟨message, n, none⟩ := by
  simp only [begin, hcurrent, Payload.intoBytes_eq_ok hmessage]
  rfl

theorem begin_of_not_bytes (hcurrent : m.current? = some (n, c)) (hbytes : ∀ b, p ≠ .bytes b)
    (htext : ∀ t, p ≠ .text t) : m.begin p = .error (.payload ⟨"bytes", p.kind⟩) := by
  simp only [begin, hcurrent, Payload.intoBytes_eq_error hbytes htext]
  rfl

theorem update_eq_self (hc : m.connections[n]? = some c) : m.update n c = m := by
  rw [update, ← List.map_id (m.connections.set n c), map_set_eq_map hc rfl, List.map_id]

/-- What is returned for a message when the sender has answered. -/
def answered : Sent → Except ModuleError Unit
  | .queued | .waits => .ok ()
  | .refused e => .error (.ofTransport e)

/-- Handing a message to a connection and waiting for its answer. -/
theorem sendTo_eq (hc : m.connections[n]? = some c) (message : Bytes) :
    m.sendTo message n = (answered (c.await m.framer message).1,
      { m.update n (c.await m.framer message).2.2 with
        framer := (c.await m.framer message).2.1 }) := by
  simp only [sendTo, hc]
  generalize c.await m.framer message = result
  obtain ⟨sent, f, c'⟩ := result
  cases sent with
  | queued | waits | refused => rfl

namespace Service

variable {s : Service} {d : Delivery} {k : Nat}

/-- What a client in service does with a payload. It takes none while it holds no sender, whatever
the payload is, and sends nothing but bytes and texts: then nothing changes. Otherwise the message is
queued at its connection if there is room for it and for those that wait in line. If there is none,
the delivery waits, and none of its own steps changes anything from then on. A connection that has
ended, or is no longer taken for connected, refuses it. -/
structure Delivers (s : Service) (p : Payload) : Prop where
  notConnected : s.module.current? = none →
    s.module.output p = (.error (.notReady ("not connected to " ++ s.module.address)), s.module) ∧
      s.step (.output p) = s
  mismatch : ∀ n c, s.module.current? = some (n, c) → (∀ b, p ≠ .bytes b) → (∀ t, p ≠ .text t) →
    s.module.output p = (.error (.payload ⟨"bytes", p.kind⟩), s.module) ∧ s.step (.output p) = s
  queued : ∀ n c message, s.module.current? = some (n, c) →
    (p = .bytes message ∨ ∃ t, p = .text t ∧ message = Utf8.encode t) →
    c.connected = true → c.stage ≠ .ended → c.queue.length + (s.line n).length < 1000 →
      s.run [.output p, .deliver s.deliveries.length] =
        { s with
          module := s.module.update n { c with queue := c.queue ++ [message] }
          answers := s.answers ++ [.ok ()] }
  waits : ∀ n c message, s.module.current? = some (n, c) →
    (p = .bytes message ∨ ∃ t, p = .text t ∧ message = Utf8.encode t) →
    c.connected = true → c.stage ≠ .ended → 1000 ≤ c.queue.length + (s.line n).length →
      ∃ place,
        let s' := s.run [.output p, .deliver s.deliveries.length]
        s' = { s with deliveries := s.deliveries ++ [⟨message, n, some place⟩] } ∧
          s'.step (.deliver s.deliveries.length) = s'
  refused : ∀ n c message, s.module.current? = some (n, c) →
    (p = .bytes message ∨ ∃ t, p = .text t ∧ message = Utf8.encode t) →
    c.connected = false ∨ c.stage = .ended →
      s.run [.output p, .deliver s.deliveries.length] =
        { s with answers := s.answers ++ [.error (.ofTransport
          (if c.connected then .sendFailed "Channel closed" else .notConnected))] }

/-- What becomes of a message that a client waits for to be taken, while only its connection goes on.
A connection that is connected takes it in the end if it reads or has room. It has written the first
of its queue, if there was no room, and has the message queued behind what is left. A delivery in
service comes to the same by its own steps and those of the connection, when nobody waits in line. -/
structure Completes (s : Service) (p : Payload) (n : Nat) (c : Connection) (message : Bytes) :
    Prop where
  taken : c.connected = true → c.stage ≠ .ended → c.stage = .active ∨ c.queue.length < 1000 →
    ∃ done rest, c.queue ++ [message] = done ++ rest ∧
      s.module.output p = (.ok (), s.module.update n
        { c with
          queue := rest
          written := c.written ++ done.flatMap s.module.framer.encode })
  refused : ¬ (c.connected = true ∧ c.stage ≠ .ended ∧
      (c.stage = .active ∨ c.queue.length < 1000)) →
    ∃ e m', s.module.output p = (.error (.ofTransport e), m')
  run : (∀ d ∈ s.deliveries, d.place = none) →
    ∃ own, (∀ a ∈ own, a = .deliver s.deliveries.length ∨ ∃ step, a = .connection n step) ∧
      s.run (.output p :: own) =
        { s with
          module := (s.module.output p).2
          answers := s.answers ++ [(s.module.output p).1] }

/-! ## The beginning -/

theorem step_output_of_error {e : ModuleError} (h : s.module.begin p = .error e) :
    s.module.output p = (.error e, s.module) ∧ s.step (.output p) = s := by
  constructor
  · simp only [TcpClient.output, h]
  · simp only [step, h]

theorem step_output (h : s.module.begin p = .ok d) :
    s.step (.output p) = { s with deliveries := s.deliveries ++ [d] } := by
  simp only [step, h]

theorem placeAt_of_none (hplace : d.place = none) (n : Nat) : d.placeAt n = none := by
  rw [Delivery.placeAt, hplace, ite_self]

/-- A delivery that has just begun is in no line. -/
theorem line_begun (hplace : d.place = none) (n : Nat) :
    line { s with deliveries := s.deliveries ++ [d] } n = s.line n := by
  rw [line, line, List.filterMap_append]
  simp [placeAt_of_none hplace]

/-! ## A delivery goes on -/

/-- A delivery that is not made to wait returns what it is answered. -/
theorem deliver_of_answer {sent : Sent} {c' : Connection} (hd : s.deliveries[k]? = some d)
    (hc : s.module.connections[d.connection]? = some c)
    (h : c.offer (s.line d.connection) d.place d.message = (sent, c')) (hsent : sent ≠ .waits) :
    s.step (.deliver k) =
      { s with
        module := s.module.update d.connection c'
        deliveries := s.deliveries.eraseIdx k
        answers := s.answers ++ [answered sent] } := by
  cases sent with
  | queued => simp only [step, deliver, hd, hc, h, answered]
  | waits => exact absurd rfl hsent
  | refused e => simp only [step, deliver, hd, hc, h, answered]

theorem deliver_of_waits (hd : s.deliveries[k]? = some d)
    (hc : s.module.connections[d.connection]? = some c)
    (h : (c.offer (s.line d.connection) d.place d.message).1 = .waits) :
    s.step (.deliver k) =
      { s with
        deliveries := s.deliveries.set k
          { d with place := some (d.place.getD (behind (s.line d.connection))) } } := by
  obtain ⟨c', hoffer, hoffers⟩ := Offers.exists_of_offer h
  cases hoffers
  simp only [step, deliver, hd, hc, hoffer, update_eq_self hc]

/-- A delivery that comes to wait keeps on waiting by its own steps. -/
theorem deliver_deliver_of_waits (hd : s.deliveries[k]? = some d) (hplace : d.place = none)
    (hc : s.module.connections[d.connection]? = some c)
    (h : (c.send (s.line d.connection).length d.message).1 = .waits) :
    s.step (.deliver k) =
        { s with
          deliveries := s.deliveries.set k
            { d with place := some (behind (s.line d.connection)) } } ∧
      (s.step (.deliver k)).step (.deliver k) = s.step (.deliver k) := by
  have hlt := (List.getElem?_eq_some_iff.1 hd).1
  have hfirst := deliver_of_waits hd hc (hplace ▸ h)
  rw [hplace, Option.getD_none] at hfirst
  refine ⟨hfirst, ?_⟩
  obtain ⟨d', hd'⟩ : ∃ d' : Delivery, d' = { d with place := some (behind (s.line d.connection)) } :=
    ⟨_, rfl⟩
  have hplace' : d'.place = some (behind (s.line d.connection)) := by rw [hd']
  have hconnection : d'.connection = d.connection := by rw [hd']
  have hmessage : d'.message = d.message := by rw [hd']
  rw [← hd'] at hfirst
  clear hd'
  -- Everybody who was in line is ahead of it, so that it finds no room again.
  have hline : (line { s with deliveries := s.deliveries.set k d' } d.connection).Perm
      (s.line d.connection ++ [behind (s.line d.connection)]) := by
    have hperm := filterMap_set_perm (g := fun d' => d'.placeAt d.connection) (b := d') hd
      (placeAt_of_none hplace _)
    have hat : d'.placeAt d.connection = some (behind (s.line d.connection)) := by
      rw [Delivery.placeAt, hconnection, beq_self_eq_true, if_pos rfl, hplace']
    rwa [hat] at hperm
  have hoffer : (c.offer (line { s with deliveries := s.deliveries.set k d' } d'.connection)
      d'.place d'.message).1 = .waits := by
    rw [hplace', hconnection, hmessage, Connection.offer, Option.isSome_some, if_pos rfl,
      ahead_behind hline, (send_eq_of_waits h).2]
  rw [hfirst, deliver_of_waits (s := { s with deliveries := s.deliveries.set k d' })
    (List.getElem?_set_self hlt) (hconnection ▸ hc) hoffer]
  simp only [hplace', Option.getD_some, List.set_set]
  rw [← hplace']

/-- A delivery that is not made to wait returns at its first step. -/
theorem run_begun {sent : Sent} {c' : Connection} (hcurrent : s.module.current? = some (n, c))
    (hmessage : p = .bytes message ∨ ∃ t, p = .text t ∧ message = Utf8.encode t)
    (h : c.offer (s.line n) none message = (sent, c')) (hsent : sent ≠ .waits) :
    s.run [.output p, .deliver s.deliveries.length] =
      { s with
        module := s.module.update n c'
        answers := s.answers ++ [answered sent] } := by
  have hbegun := step_output (begin_eq_ok hcurrent hmessage)
  change (s.step (.output p)).step (.deliver s.deliveries.length) = _
  rw [hbegun, deliver_of_answer List.getElem?_concat_length (getElem?_of_current? hcurrent) _ hsent,
    eraseIdx_concat_length]
  rw [line_begun rfl]
  exact h

/-- What a client does with a payload, whatever has happened to it. -/
theorem delivers (s : Service) (p : Payload) : s.Delivers p where
  notConnected := by
    intro hcurrent
    refine step_output_of_error ?_
    simp only [begin, hcurrent]
  mismatch := by
    intro n c hcurrent hbytes htext
    exact step_output_of_error (begin_of_not_bytes hcurrent hbytes htext)
  queued := by
    intro n c message hcurrent hmessage hconnected hstage hroom
    have hanswer : (c.offer (s.line n) none message).1 = .queued :=
      offer_eq_queued_iff.2 ⟨fun _ => hconnected, hstage, hroom⟩
    obtain ⟨c', hoffer, hoffers⟩ := Offers.exists_of_offer hanswer
    cases hoffers
    exact run_begun hcurrent hmessage hoffer (by simp)
  waits := by
    intro n c message hcurrent hmessage hconnected hstage hfull
    have hbegun := step_output (begin_eq_ok hcurrent hmessage)
    obtain ⟨hstep, hstays⟩ := deliver_deliver_of_waits
      (s := { s with deliveries := s.deliveries ++ [⟨message, n, none⟩] })
      List.getElem?_concat_length rfl (getElem?_of_current? hcurrent) (by
        rw [line_begun rfl]
        exact send_eq_waits_iff.2 ⟨hconnected, hstage, hfull⟩)
    have hrun : s.run [.output p, .deliver s.deliveries.length] =
        (s.step (.output p)).step (.deliver s.deliveries.length) := rfl
    rw [hbegun] at hrun
    refine ⟨behind (s.line n), ?_, ?_⟩
    · rw [hrun, hstep, line_begun rfl]
      simp
    · rw [hrun]
      exact hstays
  refused := by
    intro n c message hcurrent hmessage hgone
    have hanswer : (c.offer (s.line n) none message).1 =
        .refused (if c.connected then .sendFailed "Channel closed" else .notConnected) := by
      change (c.send (s.line n).length message).1 = _
      rw [send]
      by_cases hconnected : c.connected = true
      · have hstage : c.stage = .ended := hgone.resolve_left (by simp [hconnected])
        rw [if_pos hconnected, if_pos hconnected, enqueue_of_ended _ hstage]
      · rw [if_neg hconnected, if_neg hconnected]
    obtain ⟨c', hoffer, hoffers⟩ := Offers.exists_of_offer hanswer
    cases hoffers
    have hrun := run_begun hcurrent hmessage hoffer (by simp)
    rwa [update_eq_self (getElem?_of_current? hcurrent)] at hrun

/-! ## Messages that are waited for -/

/-- The steps of a connection that depend on nobody else. -/
theorem run_connection {steps : List Connection.Step} (hc : s.module.connections[n]? = some c)
    (hsteps : ∀ step ∈ steps, ∀ held heard f (c : Connection),
      c.step held heard f step = c.step true true f step) :
    s.run (steps.map (.connection n)) =
      { s with
        module := { s.module.update n (steps.foldl (fun (f, c) step => c.step true true f step)
            (s.module.framer, c)).2 with
          framer := (steps.foldl (fun (f, c) step => c.step true true f step)
            (s.module.framer, c)).1 } } := by
  induction steps generalizing s c with
  | nil =>
    rw [List.map_nil, List.foldl_nil, update_eq_self hc]
    rfl
  | cons step rest ih =>
    obtain ⟨hstep, hsteps⟩ := List.forall_mem_cons.1 hsteps
    have hfirst : s.step (.connection n step) =
        { s with
          module := { s.module.update n (c.step true true s.module.framer step).2 with
            framer := (c.step true true s.module.framer step).1 } } := by
      simp only [Service.step, hc, hstep]
    have hlt := (List.getElem?_eq_some_iff.1 hc).1
    rw [List.map_cons]
    change (s.step (.connection n step)).run _ = _
    rw [hfirst, ih (List.getElem?_set_self hlt) hsteps]
    simp [update]

/-- While nobody waits, every line is empty. -/
theorem line_eq_nil (hplaces : ∀ d ∈ s.deliveries, d.place = none) (n : Nat) : s.line n = [] :=
  List.filterMap_eq_nil_iff.2 fun d hd => placeAt_of_none (hplaces d hd) n

/-- The steps by which a connection comes to answer. -/
theorem run_relieve (hc : s.module.connections[n]? = some c) :
    s.run (c.relief.map (.connection n)) =
      { s with
        module := { s.module.update n (c.relieve s.module.framer).2 with
          framer := (c.relieve s.module.framer).1 } } :=
  run_connection hc fun _ hstep held heard => step_eq_of_mem_relief hstep held heard

/-- A delivery that waits with nobody ahead returns when its connection has come to answer. -/
theorem run_relief (hd : s.deliveries[k]? = some d) (hplace : d.place = some 0)
    (hc : s.module.connections[d.connection]? = some c)
    (hwaits : (c.send 0 d.message).1 = .waits) :
    s.run (c.relief.map (.connection d.connection) ++ [.deliver k]) =
      { s with
        module := (s.module.sendTo d.message d.connection).2
        deliveries := s.deliveries.eraseIdx k
        answers := s.answers ++ [(s.module.sendTo d.message d.connection).1] } := by
  have hlt := (List.getElem?_eq_some_iff.1 hc).1
  have hne := await_ne_waits s.module.framer c d.message
  obtain ⟨⟨f, c'⟩, hrelieve⟩ : ∃ result, c.relieve s.module.framer = result := ⟨_, rfl⟩
  obtain ⟨⟨sent, c''⟩, henqueue⟩ : ∃ result, c'.enqueue 0 d.message = result := ⟨_, rfl⟩
  have hawait : c.await s.module.framer d.message = (sent, f, c'') := by
    simp only [await, (send_eq_of_waits hwaits).1, hrelieve, henqueue]
  rw [hawait] at hne
  have hrelief := run_relieve hc
  rw [hrelieve] at hrelief
  obtain ⟨m', hm'⟩ : ∃ m' : TcpClient,
      m' = { s.module.update d.connection c' with framer := f } := ⟨_, rfl⟩
  have hc' : m'.connections[d.connection]? = some c' := by
    rw [hm']
    exact List.getElem?_set_self hlt
  have hoffer : c'.offer (line { s with module := m' } d.connection) d.place d.message =
      (sent, c'') := by
    rw [hplace, Connection.offer, Option.isSome_some, if_pos rfl]
    simpa [ahead] using henqueue
  rw [run_append, hrelief, ← hm', sendTo_eq hc, hawait]
  change step { s with module := m' } (.deliver k) = _
  rw [deliver_of_answer (s := { s with module := m' }) hd hc' hoffer hne, hm']
  simp [update]

theorem exists_run_output (hcurrent : s.module.current? = some (n, c))
    (hmessage : p = .bytes message ∨ ∃ t, p = .text t ∧ message = Utf8.encode t)
    (hplaces : ∀ d ∈ s.deliveries, d.place = none) :
    ∃ own, (∀ a ∈ own, a = .deliver s.deliveries.length ∨ ∃ step, a = .connection n step) ∧
      s.run (.output p :: own) =
        { s with
          module := (s.module.sendTo message n).2
          answers := s.answers ++ [(s.module.sendTo message n).1] } := by
  have hc := getElem?_of_current? hcurrent
  by_cases hwaits : (c.send 0 message).1 = .waits
  · have hbegun := step_output (begin_eq_ok hcurrent hmessage)
    have hline := line_eq_nil hplaces n
    have hfirst := (deliver_deliver_of_waits
      (s := { s with deliveries := s.deliveries ++ [⟨message, n, none⟩] })
      List.getElem?_concat_length rfl hc (by rwa [line_begun rfl, hline])).1
    rw [line_begun rfl, hline] at hfirst
    have hrelief := run_relief
      (s := { s with deliveries := s.deliveries ++ [⟨message, n, some 0⟩] })
      List.getElem?_concat_length rfl hc hwaits
    refine ⟨.deliver s.deliveries.length ::
      (c.relief.map (.connection n) ++ [.deliver s.deliveries.length]), ?_, ?_⟩
    · intro a ha
      simp only [List.mem_cons, List.mem_append, List.mem_map, List.mem_nil_iff, or_false] at ha
      rcases ha with rfl | ⟨step, -, rfl⟩ | rfl
      · exact .inl rfl
      · exact .inr ⟨step, rfl⟩
      · exact .inl rfl
    · change ((s.step (.output p)).step (.deliver s.deliveries.length)).run _ = _
      rw [hbegun, hfirst]
      rw [eraseIdx_concat_length] at hrelief
      refine Eq.trans ?_ hrelief
      simp [behind]
  · refine ⟨[.deliver s.deliveries.length], fun a ha => .inl (List.mem_singleton.1 ha), ?_⟩
    have hoffer : c.offer (s.line n) none message =
        ((c.send 0 message).1, (c.send 0 message).2) := by
      rw [line_eq_nil hplaces]
      rfl
    rw [run_begun hcurrent hmessage hoffer hwaits, sendTo_eq hc, await_of_not_waits _ hwaits]
    rfl

/-- What becomes of a message that a client with a connection waits for to be taken, whatever has
happened to it. -/
theorem completes (s : Service) (hcurrent : s.module.current? = some (n, c))
    (hmessage : p = .bytes message ∨ ∃ t, p = .text t ∧ message = Utf8.encode t) :
    s.Completes p n c message := by
  have hc := getElem?_of_current? hcurrent
  have houtput : s.module.output p = s.module.sendTo message n := by
    simp only [TcpClient.output, begin_eq_ok hcurrent hmessage]
  have hawaits := awaits_await s.module.framer c message
  have hsendTo := sendTo_eq hc message
  constructor
  case taken =>
    intro hconnected hstage hroom
    have hqueued : (c.await s.module.framer message).1 = .queued :=
      await_eq_queued_iff.2 ⟨hconnected, hstage, hroom⟩
    rw [houtput, hsendTo]
    generalize c.await s.module.framer message = result at hqueued hawaits
    obtain ⟨sent, f, c'⟩ := result
    cases hawaits with
    | queued => exact ⟨[], _, rfl, by simp [answered, update]⟩
    | relieved count =>
      refine ⟨c.queue.take count, c.queue.drop count ++ [message], ?_, rfl⟩
      rw [← List.append_assoc, List.take_append_drop]
    | refused | ended => cases hqueued
  case refused =>
    intro hnone
    have hrefused : (c.await s.module.framer message).1 ≠ .queued :=
      fun h => hnone (await_eq_queued_iff.1 h)
    rw [houtput, hsendTo]
    generalize c.await s.module.framer message = result at hrefused hawaits
    obtain ⟨sent, f, c'⟩ := result
    cases hawaits with
    | queued | relieved => exact absurd rfl hrefused
    | refused e => exact ⟨e, _, rfl⟩
    | ended f e => exact ⟨e, _, rfl⟩
  case run =>
    intro hplaces
    rw [houtput]
    exact exists_run_output hcurrent hmessage hplaces

end Service

end Switchboard.TcpClient
